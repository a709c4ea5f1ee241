import ObjectDocument.Proofs.Draft.Outline

/-!
# The standard checks

Of the rules of the catalog one asks for models: the rule of references.  What the others report is
decided by the model that they look at, and its links have no part in it (`clears_contents`).  The
check of a model therefore asks for the models of the types that it refers to, except for its own
type, and what it comes to depends on their answers only through `referenceFault?` (`yields_check`).
-/

namespace ObjectDocument

namespace Consult

/-- The value of a computation that asks for nothing. -/
def unasked? {α : Type} : Consult α → Option α
  | done value => some value
  | note _ next => next.unasked?
  | ask _ _ => none

theorem unasked?_eq_some_iff {α : Type} {consult : Consult α} {value : α} :
    consult.unasked? = some value ↔ consult.Yields [] value := by
  induction consult with
  | done a => simp [unasked?, yields_done_iff, eq_comm]
  | note record next ih => rw [unasked?, ih, yields_note_iff]
  | ask key resume =>
      constructor
      · intro h
        cases h
      · intro h
        cases h

end Consult

namespace Rule

def reports (rule : Rule) (context : Context) (model : EntityModel) : List Violation :=
  (rule.violations context model).unasked?.getD []

def Quiet (rule : Rule) : Prop :=
  ∀ context model exchange found, (rule.violations context model).Yields exchange found →
    exchange = []

def quietRules : List Rule :=
  [constructorParameterNames, multipleId, multipleVersions, missingIdentity,
    contradicting .reference .property, contradicting .reference .embedded,
    contradicting .id .transient, lazyReferenceOnArray, versionType]

theorem Quiet.yields {rule : Rule} (quiet : rule.Quiet) {context : Context} {model : EntityModel}
    {exchange : Exchange} {found : List Violation}
    (h : (rule.violations context model).Yields exchange found) :
    exchange = [] ∧ found = rule.reports context model := by
  obtain rfl := quiet _ _ _ _ h
  exact ⟨rfl, by rw [reports, Consult.unasked?_eq_some_iff.2 h, Option.getD_some]⟩

theorem quiet_ofModel (check : Context → EntityModel → List Violation) : (ofModel check).Quiet :=
  fun _ _ _ _ h => (Consult.yields_pure_iff.1 h).1

theorem quiet_ofProperty (check : Context → EntityModel → PropertyDescriptor → Option Violation) :
    (ofProperty check).Quiet := by
  intro context model exchange found h
  obtain ⟨_, hreports, rfl⟩ := Consult.yields_map_iff.1 h
  exact (Consult.yields_mapM_of_silent (fun _ _ _ _ h => Consult.yields_pure_iff.1 h) hreports).1

theorem quiet_of_mem {rule : Rule} (h : rule ∈ quietRules) : rule.Quiet := by
  simp only [quietRules, List.mem_cons, List.not_mem_nil, or_false] at h
  rcases h with rfl | rfl | rfl | rfl | rfl | rfl | rfl | rfl | rfl
  all_goals first | exact quiet_ofModel _ | exact quiet_ofProperty _

theorem catalog_eq :
    catalog = quietRules.take 8 ++ referenceToUnidentifiable :: quietRules.drop 8 := rfl

end Rule

namespace Context

def clears (context : Context) (model : EntityModel) : Bool :=
  Rule.quietRules.all fun rule =>
    (rule.reports context model).all fun violation => violation.severity ≠ .fatal

/-- What a model passes is the same whatever it is linked to. -/
theorem clears_contents (context : Context) (model : EntityModel) :
    context.clears model.contents = context.clears model := rfl

end Context

namespace EntityModel

def foreignReferences (model : EntityModel) : List TypeKey :=
  model.references.filter (· ≠ model.typeKey)

/-- What a model has to fulfil on its own: it passes the rules that ask for no other, and it can be
referred to if it refers to itself. -/
structure Passes (context : Context) (model : EntityModel) : Prop where
  clears : context.clears model
  itself : model.typeKey ∈ model.references → model.isIdentifiable

/-- What a model has to fulfil to be kept, given the answers of the requests for the models that it
refers to. -/
structure Accepts (context : Context) (model : EntityModel) (exchange : Exchange) : Prop
    extends Passes context model where
  others : ∀ entry ∈ exchange, Rule.referenceFault? context.schema entry.1 entry.2 = none

theorem passes_contents_iff {context : Context} {model : EntityModel} :
    model.contents.Passes context ↔ model.Passes context := by
  constructor
  · rintro ⟨hclears, hself⟩
    exact ⟨by rwa [Context.clears_contents] at hclears, hself⟩
  · rintro ⟨hclears, hself⟩
    exact ⟨by rwa [Context.clears_contents], hself⟩

end EntityModel

namespace Rule

def referenceCheck (context : Context) (model : EntityModel) (property : PropertyDescriptor) :
    Consult (List Violation) := do
  if property.metadata.has .reference then
    let target := property.normalizedType
    let answer ←
      if target = model.typeKey then pure (.ok (some model)) else Consult.request target
    return ((referenceFault? context.schema target answer).map
      (.ofProperty model property .fatal "ReferenceToUnidentifiable")).toList
  else return []

variable {context : Context} {model : EntityModel} {exchange : Exchange}

theorem referenceFault?_self {key : TypeKey} :
    referenceFault? context.schema key (.ok (some model)) = none ↔ model.isIdentifiable := by
  unfold referenceFault?
  by_cases h : model.isIdentifiable <;> simp [h]

/-- At one property, nothing is asked for unless it refers to another type, and nothing is reported
unless the reference is at fault. -/
theorem yields_referenceCheck {property : PropertyDescriptor} {found : List Violation}
    (h : (referenceCheck context model property).Yields exchange found) :
    exchange.map (·.1) =
        ((([property].filter (·.metadata.has .reference)).map (·.normalizedType)).filter
          (· ≠ model.typeKey)) ∧
      ((∀ violation ∈ found, violation.severity ≠ .fatal) ↔
        (∀ entry ∈ exchange, referenceFault? context.schema entry.1 entry.2 = none) ∧
        (property.metadata.has .reference → property.normalizedType = model.typeKey →
          model.isIdentifiable)) := by
  unfold referenceCheck at h
  by_cases hreference : property.metadata.has .reference
  · rw [if_pos hreference] at h
    have hreports {answer : ModelAnswer} :
        (∀ violation ∈ ((referenceFault? context.schema property.normalizedType answer).map
          (Violation.ofProperty model property .fatal "ReferenceToUnidentifiable")).toList,
          violation.severity ≠ .fatal) ↔
        referenceFault? context.schema property.normalizedType answer = none := by
      cases referenceFault? context.schema property.normalizedType answer with
      | none => simp
      | some text => simp [Violation.ofProperty, Violation.ofModel]
    by_cases hself : property.normalizedType = model.typeKey
    · rw [if_pos hself, pure_bind] at h
      obtain ⟨rfl, rfl⟩ := Consult.yields_pure_iff.1 h
      rw [hreports, referenceFault?_self]
      simp [hreference, hself]
    · rw [if_neg hself] at h
      obtain ⟨_, _, answer, rfl, hanswer, hreport⟩ := Consult.yields_bind_iff.1 h
      obtain rfl := Consult.yields_request_iff.1 hanswer
      obtain ⟨rfl, rfl⟩ := Consult.yields_pure_iff.1 hreport
      rw [hreports]
      simp [hreference, hself]
  · rw [if_neg hreference] at h
    obtain ⟨rfl, rfl⟩ := Consult.yields_pure_iff.1 h
    simp [hreference]

/-- The rule of references asks for the models of the other types that are referred to, in order. -/
theorem yields_mapM_referenceCheck {properties : List PropertyDescriptor}
    {found : List (List Violation)}
    (h : (properties.mapM (referenceCheck context model)).Yields exchange found) :
    exchange.map (·.1) =
        ((properties.filter (·.metadata.has .reference)).map (·.normalizedType)).filter
          (· ≠ model.typeKey) ∧
      ((∀ violation ∈ found.flatten, violation.severity ≠ .fatal) ↔
        (∀ entry ∈ exchange, referenceFault? context.schema entry.1 entry.2 = none) ∧
        (model.typeKey ∈ (properties.filter (·.metadata.has .reference)).map (·.normalizedType) →
          model.isIdentifiable)) := by
  induction properties generalizing exchange found with
  | nil =>
      obtain ⟨rfl, rfl⟩ := Consult.yields_pure_iff.1 h
      simp
  | cons property properties ih =>
      rw [List.mapM_cons] at h
      obtain ⟨first, _, report, rfl, hreport, h⟩ := Consult.yields_bind_iff.1 h
      obtain ⟨rest, _, reports, rfl, hreports, hfound⟩ := Consult.yields_bind_iff.1 h
      obtain ⟨rfl, rfl⟩ := Consult.yields_pure_iff.1 hfound
      obtain ⟨hkeys, hclear⟩ := yields_referenceCheck hreport
      obtain ⟨hkeys', hclear'⟩ := ih hreports
      constructor
      · rw [List.append_nil, List.map_append, hkeys, hkeys', ← List.filter_append,
          ← List.map_append, ← List.filter_append, List.singleton_append]
      · rw [List.flatten_cons, List.append_nil]
        simp only [List.forall_mem_append, hclear, hclear']
        by_cases hreference : property.metadata.has .reference
        · simp only [hreference, List.filter_cons_of_pos, List.map_cons, List.mem_cons]
          grind
        · simp only [hreference, Bool.false_eq_true, not_false_eq_true,
            List.filter_cons_of_neg]
          grind

/-- The rules of the catalog report nothing fatal of a model exactly if it is accepted. -/
theorem yields_catalog {found : List (List Violation)}
    (h : (catalog.mapM (Rule.violations · context model)).Yields exchange found) :
    exchange.map (·.1) = model.foreignReferences ∧
      ((∀ violation ∈ found.flatten, violation.severity ≠ .fatal) ↔
        model.Accepts context exchange) := by
  have hquiet {rules : List Rule} (hrules : rules ⊆ quietRules) {exchange : Exchange}
      {found : List (List Violation)}
      (h : (rules.mapM (Rule.violations · context model)).Yields exchange found) :
      exchange = [] ∧ found = rules.map (·.reports context model) :=
    Consult.yields_mapM_of_silent (fun rule hrule _ _ => (quiet_of_mem (hrules hrule)).yields) h
  rw [catalog_eq, List.mapM_append] at h
  obtain ⟨_, _, before, rfl, hbefore, h⟩ := Consult.yields_bind_iff.1 h
  obtain ⟨rfl, rfl⟩ := hquiet (List.take_subset _ _) hbefore
  obtain ⟨rest, _, others, rfl, hothers, hfound⟩ := Consult.yields_bind_iff.1 h
  obtain ⟨rfl, rfl⟩ := Consult.yields_pure_iff.1 hfound
  rw [List.mapM_cons] at hothers
  obtain ⟨references, _, report, rfl, hreport, h⟩ := Consult.yields_bind_iff.1 hothers
  obtain ⟨_, _, after, rfl, hafter, hothers⟩ := Consult.yields_bind_iff.1 h
  obtain ⟨rfl, rfl⟩ := hquiet (List.drop_subset _ _) hafter
  obtain ⟨rfl, rfl⟩ := Consult.yields_pure_iff.1 hothers
  obtain ⟨reports, hreports, rfl⟩ := Consult.yields_map_iff.1 hreport
  obtain ⟨hkeys, hclear⟩ := yields_mapM_referenceCheck hreports
  constructor
  · simp only [List.nil_append, List.append_nil]
    exact hkeys
  · have hclears : context.clears model = true ↔
        (∀ violation ∈ ((quietRules.take 8).map (·.reports context model)).flatten,
          violation.severity ≠ .fatal) ∧
        ∀ violation ∈ ((quietRules.drop 8).map (·.reports context model)).flatten,
          violation.severity ≠ .fatal := by
      rw [← List.forall_mem_append, ← List.flatten_append, ← List.map_append,
        List.take_append_drop]
      simp only [Context.clears, List.all_eq_true, decide_eq_true_eq, List.mem_flatten,
        List.mem_map]
      constructor
      · rintro h violation ⟨_, ⟨rule, hrule, rfl⟩, hviolation⟩
        exact h rule hrule violation hviolation
      · intro h rule hrule violation hviolation
        exact h violation ⟨_, ⟨rule, hrule, rfl⟩, hviolation⟩
    rw [List.flatten_append, List.flatten_cons, List.forall_mem_append, List.forall_mem_append,
      hclear]
    simp only [List.nil_append, List.append_nil]
    constructor
    · rintro ⟨hbefore, ⟨hothers, hitself⟩, hafter⟩
      exact ⟨⟨hclears.2 ⟨hbefore, hafter⟩, hitself⟩, hothers⟩
    · rintro ⟨⟨hpasses, hitself⟩, hothers⟩
      exact ⟨(hclears.1 hpasses).1, ⟨hothers, hitself⟩, (hclears.1 hpasses).2⟩

end Rule

/-- A check does what its rules do.  Then it fails with all that they found, if some of it is
fatal. -/
theorem Validator.yields_check {validator : Validator} {context : Context} {model : EntityModel}
    {exchange : Exchange} {outcome : Except MappingError Unit}
    (h : (validator.check context model).run.Yields exchange outcome) :
    ∃ violations, (validator.validate context model).Yields exchange violations ∧
      outcome = if violations.any (·.severity = .fatal) then
        .error (.validation { entity := model.name, violations })
      else .ok () := by
  unfold check at h
  rcases ConsultM.yields_bind_iff.1 h with ⟨_, _, violations, rfl, hvalidate, h⟩ | ⟨_, herror, _⟩
  · obtain ⟨_, hvalidate, hviolations⟩ := ConsultM.yields_lift_iff.1 hvalidate
    cases hviolations
    refine ⟨violations, ?_⟩
    rcases ConsultM.yields_bind_iff.1 h with ⟨_, _, _, rfl, htell, hverdict⟩ | ⟨_, herror, _⟩
    · obtain ⟨_, htell, _⟩ := ConsultM.yields_lift_iff.1 htell
      obtain rfl := Consult.yields_tellAll_iff.1 htell
      by_cases hfatal : violations.any (·.severity = .fatal)
      · rw [if_pos hfatal] at hverdict ⊢
        obtain ⟨rfl, rfl⟩ := ConsultM.yields_throw_iff.1 hverdict
        simpa using hvalidate
      · rw [if_neg hfatal] at hverdict ⊢
        obtain ⟨rfl, rfl⟩ := ConsultM.yields_pure_iff.1 hverdict
        simpa using hvalidate
    · obtain ⟨_, _, hvalue⟩ := ConsultM.yields_lift_iff.1 herror
      cases hvalue
  · obtain ⟨_, _, hvalue⟩ := ConsultM.yields_lift_iff.1 herror
    cases hvalue

/-- The check of a model asks for the models of the other types that it refers to.  Then it either
accepts the model, or fails with what was found. -/
theorem EntityModel.yields_check {context : Context} {model : EntityModel} {exchange : Exchange}
    {outcome : Except MappingError Unit}
    (h : (Validator.standard.check context model).run.Yields exchange outcome) :
    exchange.map (·.1) = model.foreignReferences ∧
      ((outcome = .ok () ∧ model.Accepts context exchange) ∨
        ((∃ failure, outcome = .error (.validation failure)) ∧
          ¬model.Accepts context exchange)) := by
  obtain ⟨violations, hvalidate, rfl⟩ := Validator.yields_check h
  obtain ⟨found, hfound, rfl⟩ := Consult.yields_map_iff.1 hvalidate
  obtain ⟨hkeys, hclear⟩ := Rule.yields_catalog hfound
  refine ⟨hkeys, ?_⟩
  by_cases hfatal : found.flatten.any (·.severity = .fatal)
  · rw [if_pos hfatal]
    refine .inr ⟨⟨_, rfl⟩, fun haccepts => ?_⟩
    obtain ⟨violation, hmem, hsevere⟩ := List.any_eq_true.1 hfatal
    exact hclear.2 haccepts violation hmem (by simpa using hsevere)
  · rw [if_neg hfatal]
    refine .inl ⟨rfl, hclear.1 fun violation hmem hsevere => hfatal ?_⟩
    exact List.any_eq_true.2 ⟨violation, hmem, by simpa using hsevere⟩

end ObjectDocument
