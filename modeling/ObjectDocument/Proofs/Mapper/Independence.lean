import ObjectDocument.Proofs.Mapper.Foretold
import ObjectDocument.Proofs.Mapper.History
import ObjectDocument.Proofs.Schema.Built

/-!
# Answers and what was asked for before

Two histories of requests may be answered differently, for a model can be kept that was only checked
against one that is refused later.  This shows in the first requests already: the answers are the
same in all histories exactly if whatever is kept by a single request on its own also has a model
when it is asked for on its own (`Declarations.answers_agree_iff`).

From these requests alone one reads off that the types that have models at first are consistent
(`Mapper.consistent_starts`).  Then all that follows is foretold, so nothing else is ever kept
(`Mapper.starts_of_kept`), and what is consistent has models always.
-/

namespace ObjectDocument

/-- The answers are models of the same contents, or both are errors, or both say that there is no
model to have. -/
def ModelAnswer.Agrees : ModelAnswer → ModelAnswer → Prop
  | .ok (some model), .ok (some other) => model.contents = other.contents
  | .ok none, .ok none => True
  | .error _, .error _ => True
  | _, _ => False

instance : (first second : ModelAnswer) → Decidable (first.Agrees second)
  | .ok (some model), .ok (some other) =>
    inferInstanceAs (Decidable (model.contents = other.contents))
  | .ok none, .ok none => isTrue trivial
  | .error _, .error _ => isTrue trivial
  | .ok (some _), .ok none => isFalse id
  | .ok none, .ok (some _) => isFalse id
  | .ok (some _), .error _ | .ok none, .error _ => isFalse id
  | .error _, .ok (some _) | .error _, .ok none => isFalse id

section

variable {context : Context} {key : TypeKey} {model : EntityModel} {passed : TypeKey → Prop}
  (coherent : context.schema.Coherent)

include coherent

/-- The first request of all, if it is answered by a model, shows that what the type asks for has
passed or is stuck. -/
theorem Mapper.first_answer
    (h : (Mapper.standard context).answerAfter [] key = .ok (some model))
    (hpassed : ∀ entry ∈ ((Mapper.standard context).after [key]).models, passed entry.1) :
    (∀ other ∈ context.schema.required key, passed other) ∧
      ∃ outline, context.outline key = .ok outline ∧ outline.Passes context ∧
        ∀ other ∈ outline.foreignReferences, (passed other ∧ context.Identifiable other) ∨
          (context.schema.Stuck passed other ∧
            Rule.identifiableInSchema context.schema other) := by
  have responds := responds_request coherent context.schema.size
  have hafter : (Mapper.standard context).after [key] =
      ((Mapper.standard context).answer key {}).2 := rfl
  rw [hafter] at hpassed
  have steady : Steady context {} := .initial
  have answered := answered_answerOnce coherent responds key steady
  change Answered context _ key {} ((Mapper.standard context).answer key {}).1
    ((Mapper.standard context).answer key {}).2 at answered
  change ((Mapper.standard context).answer key {}).1 = _ at h
  rw [h] at answered
  generalize ((Mapper.standard context).answer key {}).2 = final at answered hpassed
  cases answered with
  | known h => cases h
  | @made model before exchange after begins stages served asked accepts record =>
  have entered := stages.steady_enter responds steady begins
  have grows := served.grows responds entered
  have hstaged : after.staged = [(key, model)] :=
    grows.staged.trans (stages.staged_enter responds begins)
  have hmodels {other : TypeKey} {found : EntityModel} (h : (other, found) ∈ after.models) :
      passed other := hpassed _ (List.mem_append_left _ h)
  have hentries : ∀ entry ∈ after.entries, passed entry.1 := by
    intro entry hentry
    rcases List.mem_append.1 hentry with hentry | hentry
    · exact hmodels hentry
    · rw [hstaged, List.mem_singleton] at hentry
      rw [hentry]
      exact hpassed (key, model) (List.mem_append_right _ List.mem_cons_self)
  refine ⟨fun other hother => ?_, model.contents, stages.describes.outline,
    EntityModel.passes_contents_iff.2 accepts.toPasses, fun other hother => ?_⟩
  · obtain ⟨link, hlink, rfl⟩ := stages.describes.exists_link hother
    obtain ⟨found, hfound, -⟩ := stages.exists_required responds begins hlink
    have hbefore : before.staged = [] := (stages.grows_before responds begins).staged
    rw [MapperState.entries, hbefore, List.append_nil] at hfound
    exact hmodels (grows.models_subset hfound)
  · rcases accepts.reference responds entered asked served hother with
      ⟨found, hmem, hidentifiable⟩ | ⟨between, hbetween, hstart, hcyclic, hend, hschema⟩
    · exact .inl ⟨hentries _ hmem, hidentifiable⟩
    · -- All that is begun is the type itself, and it is staged.
      have hbegun : between.begun = [key] :=
        hstart.begun.trans (stages.begun_enter responds begins)
      have hkey : between.staged = [(key, model)] :=
        hstart.staged.trans (stages.staged_enter responds begins)
      have hheld := Context.explains_request coherent context.schema.size hbetween
        (by rw [hbegun]; exact Nat.lt_succ_self _) hcyclic
        fun other hother => hentries other (hend.entries_subset hother)
      obtain ⟨hmappable, ⟨last, hlast, hunstaged, -⟩ | hcircle⟩ := hheld
      · rw [hbegun] at hlast
        rw [hkey] at hunstaged
        exact absurd hlast hunstaged
      · exact .inr ⟨⟨hmappable, hcircle⟩, hschema⟩

/-- The types that have models at the first request are consistent, if such requests keep no
others. -/
theorem Mapper.consistent_starts
    (hfirst : ∀ first, ∀ entry ∈ ((Mapper.standard context).after [first]).models,
      (Mapper.standard context).Starts entry.1) :
    Consistent context (Mapper.standard context).Starts
      (context.schema.Stuck (Mapper.standard context).Starts) := by
  have hdescribes {key : TypeKey} (h : (Mapper.standard context).Starts key) :
      ∃ model, context.Describes key model := by
    obtain ⟨model, hmodel⟩ := h
    have resting := Resting.initial.answer coherent key
    exact ⟨model, resting.describes (Resting.initial.kept_of_answer coherent hmodel)⟩
  refine ⟨fun h => ?_, fun h => ?_, fun h => ?_, fun h => ?_, fun h => h.1, fun h => ?_⟩
  · exact (hdescribes h).choose_spec.mappable
  · exact (hdescribes h).choose_spec.founded
  · obtain ⟨model, hmodel⟩ := h
    exact (first_answer coherent hmodel (hfirst _)).1
  · obtain ⟨model, hmodel⟩ := h
    exact (first_answer coherent hmodel (hfirst _)).2
  · obtain ⟨other, ⟨before, after, hrequired, hbefore⟩, hstuck⟩ := h.exists_blocks coherent
    exact ⟨before, other, after, hrequired, hbefore, hstuck⟩

/-- If the first requests keep nothing but models that they can also start with, then neither do
later ones: what they are answered is foretold by the first request for the same type. -/
theorem Mapper.starts_of_kept
    (hfirst : ∀ first, ∀ entry ∈ ((Mapper.standard context).after [first]).models,
      (Mapper.standard context).Starts entry.1) {key : TypeKey}
    (h : (Mapper.standard context).Keeps key) : (Mapper.standard context).Starts key := by
  have consistent := consistent_starts coherent hfirst
  have hclear {state : MapperState} (resting : Resting context state)
      (kept : ∀ entry ∈ state.models, (Mapper.standard context).Starts entry.1) :
      Clear context (Mapper.standard context).Starts (Mapper.standard context).levels [] []
        state :=
    ⟨resting.steady, resting.begun, by rw [resting.staged]; rfl, Nat.lt_succ_self _, by simp, kept⟩
  obtain ⟨earlier, model, hmodel⟩ := h
  have hall := (Mapper.standard context).after_induction
    (fun state => Resting context state ∧
      ∀ entry ∈ state.models, (Mapper.standard context).Starts entry.1)
    ⟨.initial, by simp⟩ (fun key state ⟨resting, kept⟩ => ⟨resting.answer coherent key, ?_⟩) earlier
  · exact hall.2 _ hmodel
  · have foretold := Context.foretells_request coherent consistent _
      (hclear Resting.initial (by simp)) (hfirst key)
    exact (foretold.gives coherent consistent _ (hclear resting kept)).2

/-- If everything that is kept by the first requests can be built, then so can all that is kept by
later ones. -/
theorem Mapper.buildable_of_kept
    (hfirst : ∀ first, ∀ entry ∈ ((Mapper.standard context).after [first]).models,
      context.Buildable entry.1) {key : TypeKey} (h : (Mapper.standard context).Keeps key) :
    context.Buildable key := by
  have hstarts := starts_of_kept coherent
    (fun first entry hentry => (hfirst first entry hentry).exists_answer coherent []) h
  obtain ⟨model, hmodel⟩ := hstarts
  exact hfirst key _ (Resting.initial.kept_of_answer coherent hmodel)

/-- If all that is ever kept always has a model, then all answers agree. -/
theorem Mapper.agrees_of_kept
    (halways : ∀ earlier key, (Mapper.standard context).Keeps key →
      ∃ model, (Mapper.standard context).answerAfter earlier key = .ok (some model))
    (first second : List TypeKey) (key : TypeKey) :
    ((Mapper.standard context).answerAfter first key).Agrees
      ((Mapper.standard context).answerAfter second key) := by
  by_cases hkey : (Mapper.standard context).Keeps key
  · obtain ⟨model, hmodel⟩ := halways first key hkey
    obtain ⟨other, hother⟩ := halways second key hkey
    have houtline := contents_of_answerAfter coherent hmodel
    rw [contents_of_answerAfter coherent hother] at houtline
    rw [hmodel, hother]
    exact (Except.ok.inj houtline).symm
  · have hnot (earlier : List TypeKey) (model : EntityModel) :
        (Mapper.standard context).answerAfter earlier key ≠ .ok (some model) :=
      fun h => hkey (keeps_of_answerAfter coherent h)
    have hnone : (Mapper.standard context).answerAfter first key = .ok none ↔
        (Mapper.standard context).answerAfter second key = .ok none :=
      ((Resting.after coherent first).answer_none_iff coherent).trans
        ((Resting.after coherent second).answer_none_iff coherent).symm
    cases hfirst : (Mapper.standard context).answerAfter first key with
    | error cause =>
        cases hsecond : (Mapper.standard context).answerAfter second key with
        | error other => trivial
        | ok answer =>
            cases answer with
            | none => rw [hnone.2 hsecond] at hfirst; cases hfirst
            | some model => exact absurd hsecond (hnot second model)
    | ok answer =>
        cases answer with
        | none =>
            rw [hnone.1 hfirst]
            trivial
        | some model => exact absurd hfirst (hnot first model)

end

/-- Models of a type have the same contents in all histories of requests.  Whether there is one is
the same in all histories exactly if the first request of all keeps nothing but models that another
first request is answered by, and so it is if every type on a circle of needs can be built. -/
theorem Declarations.answers_agree_iff {declarations : Declarations} {schema : Schema}
    (h : declarations.build = .ok schema) (settings : Settings) :
    let mapper := Mapper.standard ⟨schema, settings⟩
    (∀ first second key model other, mapper.answerAfter first key = .ok (some model) →
      mapper.answerAfter second key = .ok (some other) → model.contents = other.contents) ∧
    ((∀ first second key, (mapper.answerAfter first key).Agrees (mapper.answerAfter second key)) ↔
      ∀ first, ∀ entry ∈ (mapper.after [first]).models, mapper.Starts entry.1) ∧
    ((Context.mk schema settings).CirclesBuildable → ∀ first second key,
      (mapper.answerAfter first key).Agrees (mapper.answerAfter second key)) := by
  intro mapper
  have coherent : (Context.mk schema settings).schema.Coherent := Declarations.coherent h
  refine ⟨fun first second key model other hmodel hother => ?_,
    ⟨fun hagrees first entry hentry => ?_, fun hfirst => ?_⟩, fun circles => ?_⟩
  · have houtline := Mapper.contents_of_answerAfter coherent hmodel
    rw [Mapper.contents_of_answerAfter coherent hother] at houtline
    exact (Except.ok.inj houtline).symm
  · have hkept : mapper.answerAfter [first] entry.1 = .ok (some entry.2) :=
      congrArg Prod.fst ((Resting.after coherent [first]).answer_of_kept hentry)
    have hboth := hagrees [first] [] entry.1
    rw [hkept] at hboth
    cases hfresh : mapper.answerAfter [] entry.1 with
    | error cause =>
        rw [hfresh] at hboth
        exact hboth.elim
    | ok answer =>
        cases answer with
        | none =>
            rw [hfresh] at hboth
            exact hboth.elim
        | some own => exact ⟨own, hfresh⟩
  · have consistent := Mapper.consistent_starts coherent hfirst
    have hstarts {key : TypeKey} (hkey : mapper.Keeps key) : mapper.Starts key :=
      Mapper.starts_of_kept coherent hfirst hkey
    refine Mapper.agrees_of_kept coherent fun earlier key hkey => ?_
    refine consistent.exists_answer coherent (Resting.after coherent earlier)
      (fun entry hentry => consistent.not_stuck (consistent.founded ?_)) (hstarts hkey)
    exact hstarts ⟨earlier, entry.2, hentry⟩
  · exact Mapper.agrees_of_kept coherent fun earlier key hkey =>
      (circles.of_kept coherent hkey).exists_answer coherent earlier

def Declarations.mutual : Declarations :=
  .ofList [
    { name := "Author", fields := [
      { name := "id", type := "i64", metadata := ⟨[.id]⟩ },
      { name := "book", type := "Book", metadata := ⟨[.reference {}]⟩ }] },
    { name := "Book", fields := [
      { name := "id", type := "i64", metadata := ⟨[.id]⟩ },
      { name := "author", type := "Author", metadata := ⟨[.reference {}]⟩ }] }]

/-- Of two classes that refer to each other, whatever is asked for first is answered the same. -/
theorem Declarations.agrees_mutual :
    (Context.mk mutual.schema {}).CirclesBuildable ∧
      let mapper := Mapper.standard ⟨mutual.schema, {}⟩
      ∀ first second key,
        (mapper.answerAfter first key).Agrees (mapper.answerAfter second key) := by
  have hbuild : mutual.build = .ok mutual.schema := build_eq_schema (by decide +kernel)
  have circles : (Context.mk mutual.schema {}).CirclesBuildable :=
    Context.circlesBuildable_of_buildsInOrder (by decide +kernel)
  exact ⟨circles, (answers_agree_iff hbuild {}).2.2 circles⟩

def Declarations.flawed : Declarations :=
  .ofList [
    { name := "Author", fields := [
      { name := "id", type := "i64", metadata := ⟨[.id]⟩ },
      { name := "number", type := "i64", metadata := ⟨[.id]⟩ },
      { name := "book", type := "Book", metadata := ⟨[.reference {}]⟩ }] },
    { name := "Book", fields := [
      { name := "id", type := "i64", metadata := ⟨[.id]⟩ },
      { name := "author", type := "Author", metadata := ⟨[.reference {}]⟩ }] }]

/-- The class with one identity has a model if that of the other was asked for before, for it was
checked against the model that was refused then.  Otherwise it has none. -/
theorem Declarations.not_agrees_flawed :
    ∃ schema, flawed.build = .ok schema ∧
      let mapper := Mapper.standard ⟨schema, {}⟩
      ¬(mapper.answerAfter [⟨25⟩] ⟨26⟩).Agrees (mapper.answerAfter [] ⟨26⟩) :=
  ⟨flawed.schema, build_eq_schema (by decide +kernel), by decide +kernel⟩

end ObjectDocument
