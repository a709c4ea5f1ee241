import ObjectDocument.Proofs.Consult.Answer
import ObjectDocument.Proofs.Draft.Settled
import ObjectDocument.Proofs.Mapper.Course
import ObjectDocument.Proofs.Schema.Built
import ObjectDocument.Schema.Build

/-!
# Whatever the conventions do

Conventions may leave a draft in any state: properties without a name, under the name of another, or
taken off again after they were chosen as the identity.  What a model promises does not rest on
them, but on the checks between the last convention and the model.  `EntityModel.Fulfils` says what
these checks leave of a draft, and every model that is made fulfils the draft that its conventions
left, whatever conventions and rules the mapper has and however requests are answered
(`Mapper.fulfils_of_build`).
-/

namespace ObjectDocument

/-- The model is what a draft asks for, with nothing of a model missing, empty or repeated. -/
structure EntityModel.Fulfils (model : EntityModel) (draft : ModelDraft) : Prop where
  /-- Every property of the draft is there, in order and under its names. -/
  properties : List.Forall₂ (fun (property : PropertyDraft) (made : PropertyDescriptor) =>
    property.name = some made.name ∧ property.mappedName = some made.mappedName)
      draft.properties model.properties
  names : (model.properties.map (·.name)).Nodup
  mappedNames : ∀ property ∈ model.properties, property.mappedName ≠ ""
  collection : model.collection ≠ ""
  discriminator : model.discriminatorEnabled → ∃ key value,
    model.discriminatorKey = some key ∧ key ≠ "" ∧ model.discriminator = some value ∧ value ≠ ""
  identity : ∀ property, model.idProperty? = some property ↔
    property ∈ model.properties ∧ draft.idProperty = some property.name
  version : ∀ property, model.versionProperty? = some property ↔
    property ∈ model.properties ∧ draft.versionProperty = some property.name

namespace PropertyDraft

variable {draft : PropertyDraft} {schema : Schema} {owner : TypeKey} {entity : String}
  {property : PropertyDescriptor}

theorem mappedName_ne_of_finish (h : draft.finish schema owner entity = .ok property) :
    property.mappedName ≠ "" := by
  unfold finish at h
  obtain ⟨name, -, h⟩ := Except.bind_eq_ok_iff.1 h
  obtain ⟨mappedName, -, h⟩ := Except.bind_eq_ok_iff.1 h
  obtain ⟨type, -, h⟩ := Except.bind_eq_ok_iff.1 h
  obtain ⟨accessor, -, h⟩ := Except.bind_eq_ok_iff.1 h
  by_cases hempty : mappedName = ""
  · rw [if_pos hempty] at h
    cases h
  · rw [if_neg hempty] at h
    cases h
    exact hempty

end PropertyDraft

namespace ModelDraft

theorem forall₂_of_finishProperties {context : Context} {owner : TypeKey} {entity : String}
    {names : List String} {drafts : List PropertyDraft} {properties : List PropertyDescriptor}
    (h : finishProperties context owner entity names drafts = .ok properties) :
    List.Forall₂ (fun draft property => draft.finish context.schema owner entity = .ok property)
      drafts properties := by
  induction drafts generalizing names properties with
  | nil =>
      cases h
      exact .nil
  | cons draft rest ih =>
      obtain ⟨property, others, hproperty, -, hothers, rfl⟩ :=
        finishProperties_cons_eq_ok_iff.1 h
      exact .cons hproperty (ih hothers)

/-- If names differ, then the place that is chosen by a name is that of the one property of it. -/
theorem bind_place?_eq_some_iff {properties : List PropertyDescriptor}
    (hnodup : (properties.map (·.name)).Nodup) {name : Option String}
    {property : PropertyDescriptor} :
    (place? properties name).bind (properties[·]?) = some property ↔
      property ∈ properties ∧ name = some property.name := by
  rw [bind_place?]
  cases name with
  | none => simp
  | some name =>
      rw [Option.bind_some, Option.some.injEq]
      constructor
      · intro h
        exact ⟨List.mem_of_find?_eq_some h, (by simpa using List.find?_some h : _ = name).symm⟩
      · rintro ⟨hmem, rfl⟩
        exact PropertyDescriptor.find?_name hnodup hmem

/-- Nothing that the checks let pass is missing, empty or repeated. -/
theorem fulfils_of_outcome {draft : ModelDraft} {context : Context} {model : EntityModel}
    (h : draft.outcome context = .ok model) : model.Fulfils draft := by
  obtain ⟨hdiscriminator, hcollection, properties, hproperties, rfl⟩ := outcome_eq_ok_iff.1 h
  have hfinished := forall₂_of_finishProperties hproperties
  obtain ⟨hdrafts, hnodup, -⟩ := finishProperties_ok hproperties
  refine ⟨hfinished.imp fun draft property hfinish => ?_, hnodup, fun property hproperty => ?_,
    hcollection, fun henabled => ?_, fun property => bind_place?_eq_some_iff hnodup,
    fun property => bind_place?_eq_some_iff hnodup⟩
  · obtain ⟨hname, hmapped, -⟩ := PropertyDraft.finish_ok hfinish
    exact ⟨hname, hmapped⟩
  · obtain ⟨found, -, hfinish⟩ := hdrafts property hproperty
    exact PropertyDraft.mappedName_ne_of_finish hfinish
  · obtain ⟨key, value, hkey, hvalue⟩ := exists_of_discriminatorFault? hdiscriminator henabled
    have hblank := discriminatorFault?_eq_none_iff.1 hdiscriminator henabled
    rw [hkey, hvalue] at hblank
    exact ⟨key, value, hkey, hblank.1, hvalue, hblank.2⟩

end ModelDraft

namespace Mapper

variable {mapper : Mapper} {request : Request} {draft : ModelDraft} {before after : MapperState}

theorem exists_completed {made : EntityModel}
    (h : (mapper.complete draft).run.answer request before = (.ok made, after)) :
    ∃ completed between,
      ((Convention.applyAll mapper.context mapper.options.conventions).run.run draft).answer
        request before = ((.ok (), completed), between) ∧
      completed.outcome mapper.context = .ok made := by
  obtain ⟨⟨outcome, completed⟩, between, happlied, hfinish⟩ :=
    ConsultM.answer_bind_eq_ok_iff.1 h
  have hlift : (ExceptT.lift ((Convention.applyAll mapper.context
      mapper.options.conventions).run.run draft) : ConsultM _).run.answer request before =
      (.ok (outcome, completed), between) := happlied
  rw [ExceptT.run_lift, ← bind_pure_comp, Consult.answer_bind] at hlift
  cases outcome with
  | error cause => cases hfinish
  | ok done =>
      refine ⟨completed, between, ?_, ?_⟩
      · cases happly : ((Convention.applyAll mapper.context
            mapper.options.conventions).run.run draft).answer request before with
        | mk value state =>
            rw [happly] at hlift
            cases hlift
            rfl
      · obtain ⟨exchange, hyields, -⟩ :=
          Serves.exists_yields_serves request (completed.finish mapper.context).run between
        have houtcome := (ModelDraft.yields_finish hyields).2
        rw [show (completed.finish mapper.context).run.answer request between = (.ok made, after)
          from hfinish] at houtcome
        exact houtcome.symm

/-- Every model that is made fulfils the draft that the conventions left: its logical names differ,
no mapped name is empty, nor is its collection, nor the key or the value of a discriminator that is
enabled, and its identity and its version are the properties of the names that were asked for. -/
theorem fulfils_of_build {model : EntityModel}
    (h : (mapper.build request draft).run before = (.ok model, after)) :
    ∃ completed between,
      ((Convention.applyAll mapper.context mapper.options.conventions).run.run draft).answer
        request before = ((.ok (), completed), between) ∧
      model.Fulfils completed := by
  cases hcomplete : (mapper.complete draft).run.answer request before with
  | mk outcome between =>
  cases outcome with
  | error cause =>
      have hbuild : (mapper.build request draft).run before = (.error cause, between) :=
        MapperM.run_bind_error hcomplete
      rw [hbuild] at h
      cases h
  | ok made =>
      obtain ⟨completed, applied, happly, houtcome⟩ := exists_completed hcomplete
      refine ⟨completed, applied, happly, ?_⟩
      have hmodel : model = { made with serial := between.serial } := by
        rw [build_made hcomplete, run_check_bind, Prod.mk.injEq] at h
        obtain ⟨_, -, hmodel⟩ := Except.map_eq_ok_iff.1 h.1
        exact hmodel.symm
      rw [hmodel]
      exact { ModelDraft.fulfils_of_outcome houtcome with }

end Mapper

def Declarations.membership : Declarations :=
  .ofList [
    { name := "Member", fields := [
      { name := "id", type := "i64", metadata := ⟨[.id]⟩ }, { name := "name", type := "String" }] }]

/-- A pass that adds a property without a name, gives the first property another name, takes off
what has no name, and asks for the identity under the new name and for a version that nobody has. -/
def Convention.rearranging : Convention where
  name := "Rearranging"
  apply _ := modify fun draft =>
    let renamed := (draft.addProperties [{}]).updateProperty 0 fun property =>
      { property with name := some "number", mappedName := some "no" }
    { renamed.retain (·.name.isSome) with
      discriminatorEnabled := true, discriminatorKey := some "kind", discriminator := some "member"
      idProperty := some "number", versionProperty := some "revision" }

/-- The identity is the property that has the new name, and there is no version. -/
theorem Declarations.fulfils_of_build_membership :
    let mapper : Mapper := ⟨membership.schema,
      .ofSettings {} (some [.fieldDiscovery, .rearranging]) (some .empty)⟩
    ∃ node model after, mapper.schema.node? ⟨25⟩ = some node ∧
      (mapper.build mapper.answer (.ofNode mapper.schema node none [])).run {} =
        (.ok model, after) ∧
      model.properties.map (fun property => (property.name, property.mappedName)) =
        [("number", "no"), ("name", "name")] ∧
      (∃ property, model.idProperty? = some property ∧ property.name = "number") ∧
      model.versionProperty? = none := by
  intro mapper
  have hchecks : (mapper.schema.node? ⟨25⟩).any fun node =>
      let draft := ModelDraft.ofNode mapper.schema node none []
      let applied := (((Convention.applyAll mapper.context mapper.options.conventions).run.run
        draft).answer mapper.answer {}).1.2
      ((mapper.build mapper.answer draft).run {}).1.toOption.any fun model =>
        (model.properties.map fun property => (property.name, property.mappedName)) =
            [("number", "no"), ("name", "name")] ∧
          applied.idProperty = some "number" ∧ applied.versionProperty = some "revision" := by
    decide +kernel
  obtain ⟨node, hnode, hchecks⟩ := (Option.any_eq_true _ _).1 hchecks
  obtain ⟨model, hmodel, hchecks⟩ := (Option.any_eq_true _ _).1 hchecks
  obtain ⟨hnames, hidentity, hversion⟩ := of_decide_eq_true hchecks
  cases hbuild : (mapper.build mapper.answer (.ofNode mapper.schema node none [])).run {} with
  | mk outcome after =>
  rw [hbuild] at hmodel
  cases outcome with
  | error cause => cases hmodel
  | ok made =>
      cases hmodel
      obtain ⟨completed, between, happlied, fulfils⟩ := Mapper.fulfils_of_build hbuild
      rw [happlied] at hidentity hversion
      have hlogical : model.properties.map (·.name) = ["number", "name"] := by
        have hfirst := congrArg (List.map Prod.fst) hnames
        rwa [List.map_map] at hfirst
      refine ⟨node, model, after, hnode, hbuild, hnames, ?_, ?_⟩
      · obtain ⟨property, hproperty, hname⟩ := List.mem_map.1 (hlogical ▸ List.mem_cons_self)
        exact ⟨property, (fulfils.identity property).2 ⟨hproperty, hname ▸ hidentity⟩, hname⟩
      · refine Option.eq_none_iff_forall_not_mem.2 fun property hproperty => ?_
        obtain ⟨hmem, hrequested⟩ := (fulfils.version property).1 hproperty
        have hname : property.name ∈ ["number", "name"] := hlogical ▸ List.mem_map_of_mem hmem
        rw [← Option.some.inj (hversion.symm.trans hrequested)] at hname
        exact absurd hname (by decide)

end ObjectDocument
