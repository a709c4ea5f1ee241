import ObjectDocument.Proofs.Draft.Settled
import ObjectDocument.Proofs.Mapper.Inheritance

/-!
# Identities by models and by declarations

A reference is judged by the model of its target, and while that is still in the making by the
declarations of the target alone.  Both look for a member that is marked as an identity, in the
target and its ancestors, and both let interfaces pass.  But declarations count every member, and a
model the ones that became properties: not the methods if properties are fields, not the fields if
they are methods, and of the methods no getter or setter by itself (`TypeNode.discoversId`).

So the two agree exactly if a declared identity is never the only one that is no property
(`Declarations.identifiable_agree_iff`).  Where they differ, it can depend on the order of requests
whether a model is kept (`Declarations.not_identifiable_agree_booked`).
-/

namespace ObjectDocument

/-- Whether a member that is marked as an identity becomes a property: a field, or a getter that has
a type together with its setter. -/
def TypeNode.discoversId (discovery : PropertyDiscovery) (node : TypeNode) : Bool :=
  match discovery with
  | .fields => node.fields.any (·.metadata.has .id)
  | .methods => (DeclaredMethod.groups node.methods).any fun group =>
      (DeclaredMethod.pair? group.2).any fun (getter, setter) =>
        getter.declared.isSome && (getter.metadata.has .id || setter.metadata.has .id)

def Schema.SomeLevel (schema : Schema) (key : TypeKey) (condition : TypeNode → Bool) : Prop :=
  ∃ owner ∈ key :: schema.ancestors key, ∃ node, schema.node? owner = some node ∧ condition node

namespace Rule

theorem exists_of_inheritsId {schema : Schema} {key : TypeKey} {ancestors : List TypeKey}
    (chain : schema.Chain key ancestors) (steps : Nat) (h : inheritsId schema steps key) :
    ∃ owner ∈ key :: ancestors, ∃ node, schema.node? owner = some node ∧ declaresId node := by
  induction steps generalizing key ancestors with
  | zero => cases h
  | succ steps ih =>
      rw [inheritsId] at h
      cases hnode : schema.node? key with
      | none => simp [hnode] at h
      | some node =>
          rw [hnode, Bool.or_eq_true] at h
          rcases h with h | h
          · exact ⟨key, List.mem_cons_self, node, hnode, h⟩
          · cases hparent : node.superclassKey?.filter (· ≠ .object) with
            | none =>
                rw [hparent] at h
                cases h
            | some parent =>
                rw [hparent] at h
                obtain ⟨hextends, proper⟩ :=
                  (Schema.filter_superclassKey?_eq_some_iff hnode).1 hparent
                cases chain with
                | last hlast => exact absurd (hlast parent hextends) proper
                | cons extends_next _ chain =>
                    rw [Schema.Extends, hextends] at extends_next
                    cases extends_next
                    obtain ⟨owner, howner, hfound⟩ := ih chain h
                    exact ⟨owner, List.mem_cons_of_mem _ howner, hfound⟩

theorem identifiableInSchema_iff {schema : Schema} (coherent : schema.Coherent) (key : TypeKey) :
    identifiableInSchema schema key ↔
      schema.kind? key = some .interfaceType ∨ schema.SomeLevel key declaresId := by
  have chain := coherent.chain_ancestors key
  rw [identifiableInSchema, Bool.or_eq_true, decide_eq_true_iff]
  refine or_congr_right ⟨exists_of_inheritsId chain _, ?_⟩
  rintro ⟨owner, howner, node, hnode, hdeclares⟩
  exact inheritsId_of_chain chain _ (coherent.length_ancestors_lt key) howner hnode hdeclares

end Rule

namespace Member

variable {context : Context} {level : TypeKey × Nat}

theorem exists_id_ofMethods?_iff {group : String × List DeclaredMethod} :
    (∃ member, ofMethods? (level, group) = some member ∧ member.metadata.has .id) ↔
      (DeclaredMethod.pair? group.2).any fun (getter, setter) =>
        getter.declared.isSome && (getter.metadata.has .id || setter.metadata.has .id) := by
  unfold ofMethods?
  cases DeclaredMethod.pair? group.2 with
  | none => simp
  | some pair =>
      cases hdeclared : pair.1.declared with
      | none => simp [hdeclared]
      | some declared => simp [hdeclared, Metadata.has_union_iff]

theorem exists_id_ofLevel_iff :
    (∃ member ∈ ofLevel context level, member.metadata.has .id) ↔
      ∃ node, context.schema.node? level.1 = some node ∧
        node.discoversId context.settings.propertyDiscovery := by
  unfold ofLevel TypeNode.discoversId
  cases hnode : context.schema.node? level.1 with
  | none =>
      cases context.settings.propertyDiscovery with
      | fields => simp
      | methods => simp [DeclaredMethod.groups]
  | some node =>
      cases context.settings.propertyDiscovery with
      | fields => simp [ofField]
      | methods =>
          simp only [Option.map_some, Option.getD_some, List.mem_filterMap, Option.some.injEq,
            exists_eq_left', List.any_eq_true, ← @exists_id_ofMethods?_iff level]
          grind

end Member

namespace Lineage

theorem exists_mem_levels_iff (lineage : Lineage) (good : TypeKey → Prop) :
    (∃ level ∈ lineage.levels, good level.1) ↔
      ∃ owner ∈ lineage.typeKey :: lineage.classes, good owner := by
  have hclasses : (lineage.classes.zipIdx 1).map (·.1) = lineage.classes := by simp
  have howners : lineage.levels.map (·.1) = lineage.classes.reverse ++ [lineage.typeKey] := by
    rw [levels, List.map_append, List.map_reverse, hclasses, List.map_singleton]
  have hmem (owner : TypeKey) :
      owner ∈ lineage.typeKey :: lineage.classes ↔ owner ∈ lineage.levels.map (·.1) := by
    rw [howners]
    simp [or_comm]
  simp only [hmem, List.mem_map, exists_exists_and_eq_and]

end Lineage

namespace Context

variable {context : Context} {key : TypeKey} {node : TypeNode} {model : EntityModel}

theorem exists_id_properties_iff :
    (∃ property ∈ context.properties node, property.metadata.has .id) ↔
      context.schema.SomeLevel node.key
        (TypeNode.discoversId context.settings.propertyDiscovery) := by
  have hstored : (∃ property ∈ context.properties node, property.metadata.has .id) ↔
      ∃ member ∈ (Lineage.ofNode context.schema node).members context,
        member.metadata.has .id := by
    constructor
    · rintro ⟨property, hproperty, hid⟩
      obtain ⟨member, hmember, rfl⟩ := List.mem_map.1 hproperty
      exact ⟨member, List.mem_of_mem_filter hmember, hid⟩
    · rintro ⟨member, hmember, hid⟩
      have hstored : member.isStored := by rw [Member.isStored, hid, Bool.or_true]
      exact ⟨_, List.mem_map_of_mem (List.mem_filter.2 ⟨hmember, hstored⟩), hid⟩
  have hlevels : (∃ member ∈ (Lineage.ofNode context.schema node).members context,
        member.metadata.has .id) ↔
      ∃ level ∈ (Lineage.ofNode context.schema node).levels,
        ∃ member ∈ Member.ofLevel context level, member.metadata.has .id := by
    rw [Lineage.members_eq_flatMap]
    simp only [List.mem_flatMap]
    grind
  simp only [hstored, hlevels, Member.exists_id_ofLevel_iff]
  exact Lineage.exists_mem_levels_iff _ fun owner => ∃ node,
    context.schema.node? owner = some node ∧
      node.discoversId context.settings.propertyDiscovery

/-- A model can be referred to exactly if it is one of an interface, or the type or an ancestor
discovers an identity. -/
theorem isIdentifiable_iff (coherent : context.schema.Coherent)
    (houtline : context.outline key = .ok model.contents) :
    model.isIdentifiable ↔ context.schema.kind? key = some .interfaceType ∨
      context.schema.SomeLevel key (TypeNode.discoversId context.settings.propertyDiscovery) := by
  obtain ⟨node, _, hnode, -, -⟩ := exists_of_outline houtline
  obtain rfl := coherent.key_eq hnode
  have hid : model.contents.idProperty? = model.contents.properties.find? (·.metadata.has .id) :=
    idProperty?_outline hnode houtline
  change model.idProperty? = model.properties.find? _ at hid
  have hcontents := eq_modelOf_of_outline hnode houtline
  have hinterface : model.isInterface = node.isInterface :=
    congrArg EntityModel.isInterface hcontents
  obtain ⟨hproperties, -, -⟩ := eq_of_contents hnode houtline
  rw [EntityModel.isIdentifiable, Bool.or_eq_true, hid, hproperties, List.find?_isSome,
    exists_id_properties_iff, hinterface, or_comm]
  simp [Schema.kind?, hnode, TypeNode.isInterface]

end Context

/-- In a schema that was built of declarations, let a mapper with the standard conventions and rules
give a model of a type, whatever was asked before.  The model has an identity or is that of an
interface exactly if the type is an interface, or it or an ancestor discovers an identity, and the
declarations tell the same exactly if the type is an interface, or it or an ancestor declares one.
So the declarations tell of every identity that a model has, and the two agree except for a class
where identities are declared and none is discovered. -/
theorem Declarations.identifiable_agree_iff {declarations : Declarations} {schema : Schema}
    (h : declarations.build = .ok schema) (settings : Settings) {earlier : List TypeKey}
    {key : TypeKey} {model : EntityModel}
    (hmodel : (Mapper.standard ⟨schema, settings⟩).answerAfter earlier key = .ok (some model)) :
    let discovers := TypeNode.discoversId settings.propertyDiscovery
    (model.isIdentifiable ↔
      schema.kind? key = some .interfaceType ∨ schema.SomeLevel key discovers) ∧
    (Rule.identifiableInSchema schema key ↔
      schema.kind? key = some .interfaceType ∨ schema.SomeLevel key Rule.declaresId) ∧
    (model.isIdentifiable → Rule.identifiableInSchema schema key) ∧
    ((Rule.identifiableInSchema schema key ↔ model.isIdentifiable) ↔
      schema.kind? key = some .interfaceType ∨
        (schema.SomeLevel key Rule.declaresId → schema.SomeLevel key discovers)) := by
  intro discovers
  have coherent : (Context.mk schema settings).schema.Coherent := Declarations.coherent h
  have hanswer : (Mapper.checkedBy ⟨schema, settings⟩ .standard).answerAfter earlier key =
      .ok (some model) := hmodel
  have outlined := Mapper.outlined_of_answerAfter coherent hanswer
  have hmodelled : model.isIdentifiable ↔
      schema.kind? key = some .interfaceType ∨ schema.SomeLevel key discovers :=
    Context.isIdentifiable_iff coherent outlined.outline
  have hdeclared : Rule.identifiableInSchema schema key ↔
      schema.kind? key = some .interfaceType ∨ schema.SomeLevel key Rule.declaresId :=
    Rule.identifiableInSchema_iff coherent key
  have htold : model.isIdentifiable → Rule.identifiableInSchema schema key := fun hidentifiable =>
    Context.Identifiable.inSchema coherent ⟨model.contents, outlined.outline, hidentifiable⟩
  have hagree : (Rule.identifiableInSchema schema key ↔ model.isIdentifiable) ↔
      (Rule.identifiableInSchema schema key → model.isIdentifiable) :=
    ⟨Iff.mp, fun hmodel => ⟨hmodel, htold⟩⟩
  refine ⟨hmodelled, hdeclared, htold, ?_⟩
  rw [hagree, hmodelled, hdeclared]
  by_cases hinterface : schema.kind? key = some .interfaceType <;> simp [hinterface]

/-- An interface with a reference to a class that implements it, where the class has a getter for
its identity and no setter, and a subclass that has both. -/
def Declarations.booked : Declarations :=
  .ofList [
    { name := "Linked", kind := .interfaceType, fields := [
        { name := "ticket", type := "Ticket", metadata := ⟨[.reference {}]⟩ }] },
    { name := "Ticket", interfaces := ["Linked"], methods := [
        { name := "getId", shape := .getter, type := some "i64", metadata := ⟨[.id]⟩ }] },
    { name := "Booking", superclass := some "Ticket", methods := [
        { name := "getId", shape := .getter, type := some "i64" },
        { name := "setId", shape := .setter, type := some "i64", metadata := ⟨[.id]⟩ }] }]

/-- If properties are methods, the subclass has an identity, and the declarations tell of it. -/
theorem Declarations.identifiable_agree_iff_booked :
    let mapper := Mapper.standard ⟨booked.schema, { propertyDiscovery := .methods }⟩
    ∃ model, mapper.answerAfter [] ⟨27⟩ = .ok (some model) ∧ model.isIdentifiable ∧
      Rule.identifiableInSchema booked.schema ⟨27⟩ := by
  intro mapper
  have hbuild : booked.build = .ok booked.schema := build_eq_schema (by decide +kernel)
  have hmodel : (mapper.answerAfter [] ⟨27⟩).toOption.join.any fun _ => true := by decide +kernel
  obtain ⟨model, hmodel, -⟩ := ModelAnswer.exists_of_any hmodel
  obtain ⟨hidentifiable, -, -, hagree⟩ := identifiable_agree_iff hbuild _ hmodel
  have hlevel : booked.schema.SomeLevel ⟨27⟩ (TypeNode.discoversId .methods) := by
    have hnode : (booked.schema.node? ⟨27⟩).any (TypeNode.discoversId .methods) := by decide +kernel
    obtain ⟨node, hnode, hdiscovers⟩ := (Option.any_eq_true _ _).1 hnode
    exact ⟨⟨27⟩, List.mem_cons_self, node, hnode, hdiscovers⟩
  have hid := hidentifiable.2 (.inr hlevel)
  exact ⟨model, hmodel, hid, (hagree.2 (.inr fun _ => hlevel)).2 hid⟩

/-- If properties are fields, then the model of the class has no identity, and the declarations tell
of one.  So the interface is given a model when it is asked for after the class, whose making judges
the reference by the declarations, and it is refused when it is asked for first. -/
theorem Declarations.not_identifiable_agree_booked :
    let mapper := Mapper.standard ⟨booked.schema, {}⟩
    (∃ model, mapper.answerAfter [] ⟨26⟩ = .ok (some model) ∧ ¬model.isIdentifiable) ∧
    Rule.identifiableInSchema booked.schema ⟨26⟩ ∧
    (∃ model, mapper.answerAfter [⟨26⟩] ⟨25⟩ = .ok (some model)) ∧
    ¬∃ model, mapper.answerAfter [] ⟨25⟩ = .ok (some model) := by
  intro mapper
  have hclass : (mapper.answerAfter [] ⟨26⟩).toOption.join.any fun model =>
      ¬model.isIdentifiable := by
    decide +kernel
  have hafter : (mapper.answerAfter [⟨26⟩] ⟨25⟩).toOption.join.any fun _ => true := by
    decide +kernel
  have hfirst : (mapper.answerAfter [] ⟨25⟩).toOption = none := by decide +kernel
  obtain ⟨model, hmodel, hid⟩ := ModelAnswer.exists_of_any hclass
  obtain ⟨found, hfound, -⟩ := ModelAnswer.exists_of_any hafter
  refine ⟨⟨model, hmodel, of_decide_eq_true hid⟩, by decide +kernel, ⟨found, hfound⟩, ?_⟩
  rintro ⟨other, hother⟩
  rw [hother] at hfirst
  cases hfirst

end ObjectDocument
