import ObjectDocument.Proofs.Mapper.Ancestry
import ObjectDocument.Proofs.Mapper.Independence

/-!
# References of kept models

A model is kept once each reference of it was judged, and this is done by a model that may be
refused later, or by declarations alone.  So the models that are kept may refer to types whose
models are refused whenever they are asked for (`Mapper.Answers` says that none does).

Together with what links are meant to be, this decides what can be built: links and references are
as they should be in all histories exactly if everything that a single request keeps on its own can
be built (`Declarations.references_answered_iff`).
-/

namespace ObjectDocument

/-- The request for the type that a property refers to is answered by a model that can be referred
to. -/
def Mapper.AnswersAt (mapper : Mapper) (state : MapperState) (property : PropertyDescriptor) :
    Prop :=
  ∃ target, (mapper.answer property.normalizedType state).1 = .ok (some target) ∧
    (target.idProperty?.isSome ∨ target.isInterface)

def Mapper.Answers (mapper : Mapper) (state : MapperState) : Prop :=
  ∀ key model, state.cached? key = some model → ∀ property ∈ model.properties,
    property.metadata.has .reference → mapper.AnswersAt state property

theorem EntityModel.mem_references {model : EntityModel} {key : TypeKey} :
    key ∈ model.references ↔
      ∃ property ∈ model.properties, property.metadata.has .reference ∧
        property.normalizedType = key := by
  simp [references, and_assoc]

section

variable {context : Context} (coherent : context.schema.Coherent)

include coherent

theorem Context.Buildable.answersAt {keys : List TypeKey} {key : TypeKey} {model : EntityModel}
    (buildable : context.Buildable key)
    (h : ((Mapper.standard context).after keys).cached? key = some model)
    {property : PropertyDescriptor} (hproperty : property ∈ model.properties)
    (hreference : property.metadata.has .reference) :
    (Mapper.standard context).AnswersAt ((Mapper.standard context).after keys) property := by
  have resting := Resting.after coherent keys
  have hmodel := resting.cached?_eq_some_iff.1 h
  have describes := resting.describes hmodel
  have hmem : property.normalizedType ∈ model.references :=
    EntityModel.mem_references.2 ⟨property, hproperty, hreference, rfl⟩
  by_cases hself : property.normalizedType = model.typeKey
  · refine ⟨model, ?_, ?_⟩
    · rw [hself, describes.typeKey, resting.answer_of_kept hmodel]
    · have hidentifiable := (resting.steady.passes _ hmodel).itself (hself ▸ hmem)
      exact (Bool.or_eq_true _ _).mp hidentifiable
  · obtain ⟨outline, houtline, -, hforeign⟩ := consistent_buildable.outline buildable
    rw [describes.outline] at houtline
    cases houtline
    have hforeign := hforeign property.normalizedType
      (List.mem_filter.2 ⟨hmem, decide_eq_true hself⟩)
    obtain ⟨hbuildable, outline, houtline, hidentifiable⟩ := hforeign.resolve_right fun h => h.1
    obtain ⟨target, htarget⟩ := hbuildable.exists_answer coherent keys
    rw [Mapper.contents_of_answerAfter coherent htarget] at houtline
    cases houtline
    exact ⟨target, htarget, (Bool.or_eq_true _ _).mp hidentifiable⟩

/-- If links and references are as they should be in all histories, then everything that is ever
kept is consistent. -/
theorem Mapper.consistent_of_answers
    (h : ∀ keys, ((Mapper.standard context).after keys).Linked context.schema ∧
      (Mapper.standard context).Answers ((Mapper.standard context).after keys)) :
    Consistent context (Mapper.standard context).Keeps fun _ => False := by
  refine ⟨?_, ?_, ?_, ?_, False.elim, False.elim⟩
  · rintro key ⟨keys, model, hmodel⟩
    exact ((Resting.after coherent keys).describes hmodel).mappable
  · rintro key ⟨keys, model, hmodel⟩
    exact ((Resting.after coherent keys).describes hmodel).founded
  · rintro key ⟨keys, model, hmodel⟩ other hother
    have resting := Resting.after coherent keys
    obtain ⟨link, hlink, rfl⟩ :=
      (resting.describes hmodel).exists_link hother
    have hfollow := (resting.linked_iff coherent).1 (h keys).1 _ hmodel link hlink
    obtain ⟨target, htarget, -⟩ := resting.follow?_isSome_iff.1 hfollow
    exact ⟨keys, target, resting.cached?_eq_some_iff.1 htarget⟩
  · rintro key ⟨keys, model, hmodel⟩
    have resting := Resting.after coherent keys
    refine ⟨model.contents,
      (resting.describes hmodel).outline,
      EntityModel.passes_contents_iff.2 (resting.steady.passes _ hmodel),
      fun other hother => .inl ?_⟩
    obtain ⟨property, hproperty, hreference, rfl⟩ :=
      EntityModel.mem_references.1 (List.mem_of_mem_filter hother)
    obtain ⟨target, htarget, hidentifiable⟩ :=
      (h keys).2 key model (resting.cached?_eq_some_iff.2 hmodel) property hproperty hreference
    exact ⟨keeps_of_answerAfter coherent htarget, target.contents,
      contents_of_answerAfter coherent htarget, (Bool.or_eq_true _ _).mpr hidentifiable⟩

end

/-- References of a kept model are answered if the model of its type can be built.  Links and
references are as they should be in all histories exactly if everything that is kept by a single
request can be built, and so they are if every type on a circle of needs can be. -/
theorem Declarations.references_answered_iff {declarations : Declarations} {schema : Schema}
    (h : declarations.build = .ok schema) (settings : Settings) :
    let context : Context := ⟨schema, settings⟩
    let mapper := Mapper.standard context
    (∀ keys key model, (mapper.after keys).cached? key = some model → context.Buildable key →
      ∀ property ∈ model.properties, property.metadata.has .reference →
        mapper.AnswersAt (mapper.after keys) property) ∧
    ((∀ keys, (mapper.after keys).Linked schema ∧ mapper.Answers (mapper.after keys)) ↔
      ∀ first, ∀ entry ∈ (mapper.after [first]).models, context.Buildable entry.1) ∧
    (context.CirclesBuildable → ∀ keys, mapper.Answers (mapper.after keys)) := by
  intro context mapper
  have coherent : context.schema.Coherent := Declarations.coherent h
  have hanswers {keys : List TypeKey} (hkept : ∀ key, mapper.Keeps key → context.Buildable key) :
      mapper.Answers (mapper.after keys) := fun key model hcached _ hproperty hreference =>
    (hkept key ⟨keys, model, (Resting.after coherent keys).cached?_eq_some_iff.1 hcached⟩).answersAt
      coherent hcached hproperty hreference
  refine ⟨fun keys key model hcached buildable _ hproperty hreference =>
    buildable.answersAt coherent hcached hproperty hreference, ⟨fun hall first entry hentry => ?_,
      fun hfirst keys => ?_⟩, fun circles keys => ?_⟩
  · exact ⟨mapper.Keeps, Mapper.consistent_of_answers coherent hall, [first], entry.2, hentry⟩
  · have hkept (key : TypeKey) (hkey : mapper.Keeps key) : context.Buildable key :=
      Mapper.buildable_of_kept coherent hfirst hkey
    refine ⟨Mapper.linked_of_buildable coherent fun entry hentry => ?_, hanswers hkept⟩
    exact hkept entry.1 ⟨keys, entry.2, hentry⟩
  · exact hanswers fun key hkey => circles.of_kept coherent hkey

def Declarations.library : Declarations :=
  .ofList [
    { name := "Author", fields := [
      { name := "id", type := "i64", metadata := ⟨[.id]⟩ },
      { name := "books", type := "List<Book>", metadata := ⟨[.reference {}]⟩ }] },
    { name := "Book", fields := [
      { name := "id", type := "i64", metadata := ⟨[.id]⟩ },
      { name := "author", type := "Author", metadata := ⟨[.reference {}]⟩ }] },
    { name := "Loan", fields := [
      { name := "book", type := "Book", metadata := ⟨[.reference {}]⟩ },
      { name := "author", type := "Author", metadata := ⟨[.reference {}]⟩ }] }]

/-- Whatever is asked for of the library, the references of what is kept are answered. -/
theorem Declarations.answers_library :
    (Context.mk library.schema {}).CirclesBuildable ∧
      let mapper := Mapper.standard ⟨library.schema, {}⟩
      ∀ keys, mapper.Answers (mapper.after keys) := by
  have hbuild : library.build = .ok library.schema := build_eq_schema (by decide +kernel)
  have circles : (Context.mk library.schema {}).CirclesBuildable :=
    Context.circlesBuildable_of_buildsInOrder (by decide +kernel)
  exact ⟨circles, (references_answered_iff hbuild {}).2.2 circles⟩

def Declarations.circular : Declarations :=
  .ofList [
    { name := "Holder", fields := [
      { name := "left", type := "Left", metadata := ⟨[.reference {}]⟩ }] },
    { name := "Left", kind := .interfaceType, interfaces := ["Right"] },
    { name := "Right", kind := .interfaceType, interfaces := ["Left"] }]

/-- The class is kept, for an interface counts as a type that can be referred to, but no request for
the interface is answered by a model. -/
theorem Declarations.not_answers_circular :
    ∃ schema, circular.build = .ok schema ∧
      let mapper := Mapper.standard ⟨schema, {}⟩
      ¬mapper.Answers (mapper.after [⟨25⟩]) := by
  refine ⟨circular.schema, build_eq_schema (by decide +kernel), fun answers => ?_⟩
  have hkept : (((Mapper.standard ⟨circular.schema, {}⟩).after [⟨25⟩]).cached? ⟨25⟩).any
      fun model => model.properties.any fun property =>
        property.metadata.has .reference && property.normalizedType = ⟨26⟩ := by
    decide +kernel
  have hanswer : ((Mapper.standard ⟨circular.schema, {}⟩).answer ⟨26⟩
      ((Mapper.standard ⟨circular.schema, {}⟩).after [⟨25⟩])).1.toOption = none := by
    decide +kernel
  obtain ⟨model, hmodel, hproperties⟩ := Option.any_eq_true _ _ |>.1 hkept
  obtain ⟨property, hproperty, hreference⟩ := List.any_eq_true.1 hproperties
  rw [Bool.and_eq_true, decide_eq_true_eq] at hreference
  obtain ⟨target, htarget, -⟩ := answers ⟨25⟩ model hmodel property hproperty hreference.1
  rw [hreference.2] at htarget
  rw [htarget] at hanswer
  cases hanswer

end ObjectDocument
