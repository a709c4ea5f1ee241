import ObjectDocument.Proofs.Draft.Settled
import ObjectDocument.Proofs.Validation.Check

/-!
# What the standard rules complain about

Where no property is a reference, the rules of the catalog ask for no model, and each of them
reports what it finds.  What is fatal of it is listed here without the rules, from the properties of
a type and the parameters of its constructor (`Context.breaches`): nothing, exactly if these agree
with each other (`Context.breaches_eq_nil_iff`).  The check of a model fails with this list
(`Context.yields_check`).  If there is nothing to complain about, then a model has no more than one
identity and one version, and finds them (`Context.Agrees.keys`).
-/

namespace ObjectDocument

namespace Rule

variable {context : Context} {model : EntityModel}

theorem reports_ofModel (check : Context → EntityModel → List Violation) :
    (ofModel check).reports context model = check context model := rfl

theorem reports_ofProperty
    (check : Context → EntityModel → PropertyDescriptor → Option Violation) :
    (ofProperty check).reports context model =
      model.properties.filterMap (check context model) := by
  have hquiet : (ofProperty check).violations context model =
      pure (model.properties.filterMap (check context model)) := by
    rw [List.filterMap_eq_flatMap_toList, List.flatMap_def]
    simp only [violations, ofProperty, List.mapM_pure, map_pure]
  rw [reports, hquiet]
  rfl

theorem violations_referenceToUnidentifiable
    (unreferring : ∀ property ∈ model.properties, ¬property.metadata.has .reference) :
    referenceToUnidentifiable.violations context model = pure [] := by
  have hnone (properties : List PropertyDescriptor) (h : properties ⊆ model.properties) :
      properties.mapM (referenceCheck context model) = pure (properties.map fun _ => []) := by
    induction properties with
    | nil => rfl
    | cons property rest ih =>
        obtain ⟨hproperty, hrest⟩ := List.cons_subset.1 h
        rw [List.mapM_cons, ih hrest, referenceCheck, if_neg (unreferring property hproperty)]
        rfl
  change List.flatten <$> model.properties.mapM (referenceCheck context model) = _
  rw [hnone _ (List.Subset.refl _), map_pure]
  simp

theorem mem_catalog {rule : Rule} (h : rule ∈ catalog) :
    rule ∈ quietRules ∨ rule = referenceToUnidentifiable := by
  rw [catalog_eq] at h
  rcases List.mem_append.1 h with h | h
  · exact .inl (List.mem_of_mem_take h)
  · rcases List.mem_cons.1 h with rfl | h
    · exact .inr rfl
    · exact .inl (List.mem_of_mem_drop h)

/-- Where there are no references, every rule of the catalog reports without asking. -/
theorem yields_catalog_of_unreferring
    (unreferring : ∀ property ∈ model.properties, ¬property.metadata.has .reference)
    {exchange : Exchange} {found : List (List Violation)}
    (h : (catalog.mapM (Rule.violations · context model)).Yields exchange found) :
    exchange = [] ∧ found = catalog.map (·.reports context model) := by
  refine Consult.yields_mapM_of_silent (fun rule hrule exchange found h => ?_) h
  rcases mem_catalog hrule with hrule | rfl
  · exact (quiet_of_mem hrule).yields h
  · rw [violations_referenceToUnidentifiable unreferring] at h
    obtain ⟨rfl, rfl⟩ := Consult.yields_pure_iff.1 h
    rw [reports, violations_referenceToUnidentifiable unreferring]
    exact ⟨rfl, rfl⟩

end Rule

def TypeNode.fatal (node : TypeNode) (property : Option PropertyDescriptor)
    (rule message : String) : Violation where
  severity := .fatal
  entity := node.name
  entityType := node.key
  property := property.map (·.name)
  rule := rule
  message := message

namespace Context

def propertiesWith (context : Context) (node : TypeNode) (kind : MarkerKind) :
    List PropertyDescriptor :=
  (context.properties node).filter (·.metadata.has kind)

/-- The markers and the types of the stored properties of a type agree with each other, and with
the constructor of the type. -/
structure Agrees (context : Context) (node : TypeNode) : Prop where
  parameters : ∀ param ∈ node.constructorParams.getD [],
    param ∈ (context.properties node).map (·.name)
  identity : (context.propertiesWith node .id).length ≤ 1
  version : (context.propertiesWith node .version).length ≤ 1
  stored : ∀ property ∈ context.properties node,
    ¬(property.metadata.has .id ∧ property.metadata.has .transient)
  versionType : ∀ property ∈ context.properties node, property.metadata.has .version →
    property.typeKey = .int32 ∨ property.typeKey = .int64

instance (context : Context) (node : TypeNode) : Decidable (context.Agrees node) :=
  decidable_of_iff (_ ∧ _ ∧ _ ∧ _ ∧ _)
    ⟨fun ⟨parameters, identity, version, stored, versionType⟩ =>
      ⟨parameters, identity, version, stored, versionType⟩,
      fun agrees => ⟨agrees.parameters, agrees.identity, agrees.version, agrees.stored,
        agrees.versionType⟩⟩

def unmatchedParameters (context : Context) (node : TypeNode) : List Violation :=
  ((node.constructorParams.getD []).filter
    (· ∉ (context.properties node).map (·.name))).map fun param =>
      node.fatal none "ConstructorParameterNames"
        ("constructor parameter " ++ param ++ " does not match any mapped property")

def repeatedMarkers (context : Context) (node : TypeNode) (kind : MarkerKind) (rule : String) :
    List Violation :=
  if 1 < (context.propertiesWith node kind).length then
    [node.fatal none rule ("more than one property is marked " ++ kind.text ++ ": " ++
      ", ".intercalate ((context.propertiesWith node kind).map (·.name)))]
  else []

def contradictions (context : Context) (node : TypeNode) (first second : MarkerKind) :
    List Violation :=
  ((context.properties node).filter fun property =>
    property.metadata.has first ∧ property.metadata.has second).map fun property =>
      node.fatal (some property) "ContradictingMetadata"
        ("a property cannot be both " ++ first.text ++ " and " ++ second.text)

def unfitVersions (context : Context) (node : TypeNode) : List Violation :=
  ((context.properties node).filter fun property =>
    property.metadata.has .version ∧
      property.typeKey ≠ .int32 ∧ property.typeKey ≠ .int64).map fun property =>
        node.fatal (some property) "VersionType"
          ("version properties must be Int32 or Int64, found " ++
            context.schema.name property.typeKey)

/-- Whatever keeps a type from agreeing, in the order of the rules. -/
def breaches (context : Context) (node : TypeNode) : List Violation :=
  context.unmatchedParameters node ++ context.repeatedMarkers node .id "MultipleId" ++
    context.repeatedMarkers node .version "MultipleVersions" ++
    context.contradictions node .id .transient ++ context.unfitVersions node

variable {context : Context} {node : TypeNode} {model : EntityModel}

theorem repeatedMarkers_eq_nil_iff {kind : MarkerKind} {rule : String} :
    context.repeatedMarkers node kind rule = [] ↔
      (context.propertiesWith node kind).length ≤ 1 := by
  unfold repeatedMarkers
  by_cases h : 1 < (context.propertiesWith node kind).length
  · simp [h]
  · simp [h, Nat.le_of_not_lt h]

theorem breaches_eq_nil_iff : context.breaches node = [] ↔ context.Agrees node := by
  simp only [breaches, unmatchedParameters, contradictions, unfitVersions,
    List.append_eq_nil_iff, List.map_eq_nil_iff, List.filter_eq_nil_iff,
    repeatedMarkers_eq_nil_iff, decide_eq_true_eq, Decidable.not_not, not_and_or]
  constructor
  · rintro ⟨⟨⟨⟨parameters, identity⟩, version⟩, stored⟩, versionType⟩
    exact ⟨parameters, identity, version, fun property h => by grind, fun property h => by grind⟩
  · rintro ⟨parameters, identity, version, stored, versionType⟩
    exact ⟨⟨⟨⟨parameters, identity⟩, version⟩, fun property h => by grind⟩,
      fun property h => by grind⟩

/-! ### The breaches are what the rules report -/

section

variable (hproperties : model.properties = context.properties node)
  (hname : model.name = node.name) (hkey : model.typeKey = node.key)

include hname hkey

theorem ofModel_eq_fatal (rule message : String) :
    Violation.ofModel model .fatal rule message = node.fatal none rule message := by
  rw [Violation.ofModel, hname, hkey]
  rfl

theorem ofProperty_eq_fatal (property : PropertyDescriptor) (rule message : String) :
    Violation.ofProperty model property .fatal rule message =
      node.fatal (some property) rule message := by
  rw [Violation.ofProperty, ofModel_eq_fatal hname hkey]
  rfl

include hproperties

theorem reports_constructorParameterNames (hnode : context.schema.node? node.key = some node) :
    Rule.constructorParameterNames.reports context model = context.unmatchedParameters node := by
  rw [Rule.constructorParameterNames, Rule.reports_ofModel, unmatchedParameters]
  simp only [hkey, hnode, Option.bind_some, ofModel_eq_fatal hname hkey]
  congr 1
  refine List.filter_congr fun param _ => ?_
  rw [EntityModel.property?, hproperties, Bool.eq_iff_iff]
  simp

theorem reports_atMostOne (kind : MarkerKind) (rule : String) :
    (Rule.atMostOne kind rule).reports context model = context.repeatedMarkers node kind rule := by
  rw [Rule.atMostOne, Rule.reports_ofModel, repeatedMarkers, EntityModel.propertiesWith,
    hproperties]
  simp only [ofModel_eq_fatal hname hkey]
  rfl

theorem reports_contradicting (first second : MarkerKind) :
    (Rule.contradicting first second).reports context model =
      context.contradictions node first second := by
  rw [Rule.contradicting, Rule.reports_ofProperty, hproperties, contradictions,
    ← List.filterMap_eq_map, List.filterMap_filter]
  refine List.filterMap_congr fun property _ => ?_
  simp only [decide_eq_true_eq, ofProperty_eq_fatal hname hkey]
  rfl

theorem reports_versionType (hboxed : ∀ key, context.schema.boxed (context.schema.boxed key) =
      context.schema.boxed key) :
    Rule.versionType.reports context model = context.unfitVersions node := by
  rw [Rule.versionType, Rule.reports_ofProperty, hproperties, unfitVersions,
    ← List.filterMap_eq_map, List.filterMap_filter]
  refine List.filterMap_congr fun property hproperty => ?_
  simp only [decide_eq_true_eq, ofProperty_eq_fatal hname hkey, boxed_typeKey hboxed hproperty]
  rfl

end

theorem reports_lazyReferenceOnArray
    (unreferring : ∀ property ∈ model.properties, ¬property.metadata.has .reference) :
    Rule.lazyReferenceOnArray.reports context model = [] := by
  rw [Rule.lazyReferenceOnArray, Rule.reports_ofProperty, List.filterMap_eq_nil_iff]
  intro property hproperty
  have hreference : property.metadata.reference? = none := by
    have hnone : property.metadata.get? .reference = none := by
      simpa [Metadata.has] using unreferring property hproperty
    rw [Metadata.reference?, hnone]
  simp [hreference]

theorem filter_fatal_map {α : Type} {as : List α} {f : α → Violation}
    (h : ∀ a, (f a).severity = .fatal) :
    (as.map f).filter (·.severity = .fatal) = as.map f :=
  List.filter_eq_self.2 (List.forall_mem_map.2 fun a _ => decide_eq_true (h a))

theorem filter_fatal_repeatedMarkers (kind : MarkerKind) (rule : String) :
    (context.repeatedMarkers node kind rule).filter (·.severity = .fatal) =
      context.repeatedMarkers node kind rule := by
  unfold repeatedMarkers
  split <;> simp [TypeNode.fatal]

theorem filter_fatal_missingIdentity (context : Context) (model : EntityModel) :
    (Rule.missingIdentity.reports context model).filter (·.severity = .fatal) = [] := by
  rw [Rule.missingIdentity, Rule.reports_ofModel]
  split <;> simp [Violation.ofModel]

section

variable (hnode : context.schema.node? node.key = some node)
  (hboxed : ∀ key, context.schema.boxed (context.schema.boxed key) = context.schema.boxed key)
  (hproperties : model.properties = context.properties node)
  (hname : model.name = node.name) (hkey : model.typeKey = node.key)
  (unreferring : ∀ property ∈ model.properties, ¬property.metadata.has .reference)

include hnode hboxed hproperties hname hkey unreferring

/-- The fatal violations of a model without references are the breaches of its type. -/
theorem filter_fatal_catalog :
    ((Rule.catalog.map (·.reports context model)).flatten).filter (·.severity = .fatal) =
      context.breaches node := by
  have hcontradicting (second : MarkerKind) :
      (Rule.contradicting .reference second).reports context model = [] := by
    rw [reports_contradicting hproperties hname hkey, contradictions, List.map_eq_nil_iff,
      List.filter_eq_nil_iff]
    intro property hproperty hboth
    exact unreferring property (hproperties ▸ hproperty) (of_decide_eq_true hboth).1
  have hreferences : Rule.referenceToUnidentifiable.reports context model = [] := by
    rw [Rule.reports, Rule.violations_referenceToUnidentifiable unreferring]
    rfl
  have hfatal (property : Option PropertyDescriptor) (rule message : String) :
      (node.fatal property rule message).severity = .fatal := rfl
  simp only [Rule.catalog, List.map_cons, List.map_nil, List.flatten_cons, List.flatten_nil,
    List.append_nil, List.filter_append, hcontradicting, hreferences,
    reports_lazyReferenceOnArray unreferring, filter_fatal_missingIdentity, List.nil_append]
  rw [reports_constructorParameterNames hproperties hname hkey hnode, Rule.multipleId,
    Rule.multipleVersions, reports_atMostOne hproperties hname hkey,
    reports_atMostOne hproperties hname hkey, reports_contradicting hproperties hname hkey,
    reports_versionType hproperties hname hkey hboxed, unmatchedParameters, contradictions,
    unfitVersions, filter_fatal_map fun _ => hfatal _ _ _, filter_fatal_map fun _ => hfatal _ _ _,
    filter_fatal_map fun _ => hfatal _ _ _, filter_fatal_repeatedMarkers,
    filter_fatal_repeatedMarkers]
  simp only [breaches, List.append_assoc]
  rfl

theorem agrees_of_clears (hclears : context.clears model) : context.Agrees node := by
  rw [← breaches_eq_nil_iff,
    ← filter_fatal_catalog hnode hboxed hproperties hname hkey unreferring, List.filter_eq_nil_iff]
  intro violation hviolation hfatal
  obtain ⟨_, hreports, hviolation⟩ := List.mem_flatten.1 hviolation
  obtain ⟨rule, hrule, rfl⟩ := List.mem_map.1 hreports
  rcases Rule.mem_catalog hrule with hquiet | rfl
  · have hall := List.all_eq_true.1 (List.all_eq_true.1 hclears rule hquiet) violation hviolation
    exact of_decide_eq_true hall (of_decide_eq_true hfatal)
  · rw [Rule.reports, Rule.violations_referenceToUnidentifiable unreferring] at hviolation
    cases hviolation

/-- The check of a model without references fails exactly with the breaches of its type. -/
theorem yields_check {exchange : Exchange} {outcome : Except MappingError Unit}
    (h : (Validator.standard.check context model).run.Yields exchange outcome) :
    ∃ violations, violations.filter (·.severity = .fatal) = context.breaches node ∧
      outcome = if context.breaches node = [] then .ok ()
        else .error (.validation { entity := node.name, violations }) := by
  obtain ⟨violations, hvalidate, rfl⟩ := Validator.yields_check h
  obtain ⟨found, hfound, rfl⟩ := Consult.yields_map_iff.1 hvalidate
  obtain ⟨-, rfl⟩ := Rule.yields_catalog_of_unreferring unreferring hfound
  have hfatal := filter_fatal_catalog hnode hboxed hproperties hname hkey unreferring
  refine ⟨_, hfatal, ?_⟩
  by_cases hany : ((Rule.catalog.map (·.reports context model)).flatten).any (·.severity = .fatal)
  · have hsome : context.breaches node ≠ [] := by
      obtain ⟨violation, hviolation, hsevere⟩ := List.any_eq_true.1 hany
      exact List.ne_nil_of_mem (hfatal ▸ List.mem_filter.2 ⟨hviolation, hsevere⟩)
    rw [if_pos hany, if_neg hsome, hname]
  · have hnone : context.breaches node = [] := by
      rw [← hfatal, List.filter_eq_nil_iff]
      exact fun violation hviolation hsevere =>
        hany (List.any_eq_true.2 ⟨violation, hviolation, hsevere⟩)
    rw [if_neg hany, if_pos hnone]

end

/-- Of no more than one that passes a test, it is the first that does. -/
theorem find?_eq_some_iff_of_length_le {α : Type} {as : List α} {test : α → Bool}
    (h : (as.filter test).length ≤ 1) {a : α} : as.find? test = some a ↔ a ∈ as ∧ test a := by
  rw [← List.head?_filter, ← List.mem_filter]
  match as.filter test, h with
  | [], _ => simp
  | [b], _ => simp [eq_comm]

theorem Agrees.keys {key : TypeKey} (agrees : context.Agrees node)
    (hnode : context.schema.node? key = some node)
    (houtline : context.outline key = .ok model.contents) :
    (∀ property, model.idProperty? = some property ↔
      property ∈ model.properties ∧ property.metadata.has .id) ∧
    (∀ property, model.versionProperty? = some property ↔
      property ∈ model.properties ∧ property.metadata.has .version) ∧
    ∀ property ∈ model.properties,
      (property.metadata.has .id → property.mappedName = idKey) ∧
        ¬property.metadata.has .transient := by
  have hid : model.contents.idProperty? = model.contents.properties.find? (·.metadata.has .id) :=
    idProperty?_outline hnode houtline
  have hversion : model.contents.versionProperty? =
      model.contents.properties.find? (·.metadata.has .version) :=
    versionProperty?_outline hnode houtline
  change model.idProperty? = model.properties.find? _ at hid
  change model.versionProperty? = model.properties.find? _ at hversion
  rw [hid, hversion, (eq_of_contents hnode houtline).1]
  refine ⟨fun property => ?_, fun property => ?_, fun property hproperty => ⟨?_, ?_⟩⟩
  · exact find?_eq_some_iff_of_length_le agrees.identity
  · exact find?_eq_some_iff_of_length_le agrees.version
  · exact mappedName_of_id hproperty
  · exact fun htransient => agrees.stored property hproperty
      ⟨id_of_transient hproperty htransient, htransient⟩

end Context

end ObjectDocument
