import Mathlib.Data.List.Nodup
import ObjectDocument.Proofs.Draft.Members

/-!
# What is settled of an entity

Besides its links, a model is settled by the properties of the stored members of its type.  It
exists if these and the names of the type are complete (`Context.exists_outline_iff`), and its
identity and its version are the first properties that are marked so
(`Context.idProperty?_outline`, `Context.versionProperty?_outline`): they are found by their names,
but names differ.
-/

namespace ObjectDocument

theorem ModelDraft.discriminatorFault?_eq_none_iff {draft : ModelDraft} :
    draft.discriminatorFault? = none ↔ (draft.discriminatorEnabled →
      draft.discriminatorKey.getD "" ≠ "" ∧ draft.discriminator.getD "" ≠ "") := by
  unfold discriminatorFault? isBlank
  by_cases henabled : draft.discriminatorEnabled
  · by_cases hkey : draft.discriminatorKey.getD "" = ""
    · simp [henabled, hkey]
    · by_cases hvalue : draft.discriminator.getD "" = "" <;> simp [henabled, hkey, hvalue]
  · simp [henabled]

theorem ModelDraft.bind_place? (properties : List PropertyDescriptor) (name : Option String) :
    (place? properties name).bind (properties[·]?) =
      name.bind fun name => properties.find? (·.name = name) := by
  cases name with
  | none => rfl
  | some name => exact List.find?_eq_bind_findIdx?_getElem?.symm

theorem PropertyDescriptor.find?_name {properties : List PropertyDescriptor}
    (hnodup : (properties.map (·.name)).Nodup) {property : PropertyDescriptor}
    (h : property ∈ properties) : properties.find? (·.name = property.name) = some property := by
  cases hfound : properties.find? (·.name = property.name) with
  | none =>
      exact absurd (decide_eq_true rfl) (List.find?_eq_none.1 hfound property h)
  | some other =>
      have hname : other.name = property.name := by simpa using List.find?_some hfound
      rw [List.inj_on_of_nodup_map hnodup (List.mem_of_find?_eq_some hfound) h hname]

namespace Context

variable {context : Context} {key : TypeKey} {node : TypeNode} {model : EntityModel}

/-- Nothing is missing that a model of the type has to have. -/
structure Structured (context : Context) (node : TypeNode) : Prop where
  names : ((context.properties node).map (·.name)).Nodup
  mappedNames : ∀ property ∈ context.properties node, property.mappedName ≠ ""
  collection : (context.outlineDraft node).collectionName context.settings ≠ ""
  discriminator : (context.outlineDraft node).discriminatorEnabled →
    (context.outlineDraft node).discriminatorKey.getD "" ≠ "" ∧
      (context.outlineDraft node).discriminator.getD "" ≠ ""

instance (context : Context) (node : TypeNode) : Decidable (context.Structured node) :=
  decidable_of_iff (_ ∧ _ ∧ _ ∧ _)
    ⟨fun ⟨names, mappedNames, collection, discriminator⟩ =>
      ⟨names, mappedNames, collection, discriminator⟩,
      fun structured => ⟨structured.names, structured.mappedNames, structured.collection,
        structured.discriminator⟩⟩

theorem exists_outline_iff (hnode : context.schema.node? key = some node) :
    (∃ model, context.outline key = .ok model) ↔ context.Structured node := by
  simp only [outline_eq_ok_iff hnode, ModelDraft.discriminatorFault?_eq_none_iff]
  have hnames : (context.properties node).map (·.name) =
      ((Lineage.ofNode context.schema node).storedMembers context).map (·.name) := by
    rw [properties, List.map_map]
    rfl
  have hmapped : (∀ property ∈ context.properties node, property.mappedName ≠ "") ↔
      ∀ member ∈ (Lineage.ofNode context.schema node).storedMembers context,
        PropertyDraft.mappedNameOf context.settings member.name member.metadata ≠ "" := by
    rw [properties, List.forall_mem_map]
    rfl
  constructor
  · rintro ⟨_, hdiscriminator, hcollection, hempty, hnodup, -⟩
    exact ⟨hnames ▸ hnodup, hmapped.2 hempty, hcollection, hdiscriminator⟩
  · intro structured
    exact ⟨_, structured.discriminator, structured.collection, hmapped.1 structured.mappedNames,
      hnames ▸ structured.names, rfl⟩

theorem eq_modelOf_of_outline (hnode : context.schema.node? key = some node)
    (h : context.outline key = .ok model) :
    model = (context.outlineDraft node).modelOf context (context.properties node) := by
  obtain ⟨-, -, -, -, hmodel⟩ := (outline_eq_ok_iff hnode).1 h
  exact hmodel

/-- What a model has of its type is there before the model is checked. -/
theorem eq_of_contents (hnode : context.schema.node? key = some node)
    (h : context.outline key = .ok model.contents) :
    model.properties = context.properties node ∧ model.name = node.name ∧
      model.typeKey = node.key := by
  have hcontents := eq_modelOf_of_outline hnode h
  refine ⟨?_, ?_, ?_⟩
  · change model.contents.properties = _
    rw [hcontents]
    rfl
  · change model.contents.name = _
    rw [hcontents]
    rfl
  · change model.contents.typeKey = _
    rw [hcontents]
    rfl

theorem firstNameWith_outlineDraft (context : Context) (node : TypeNode) (kind : MarkerKind) :
    (context.outlineDraft node).firstNameWith kind =
      ((context.properties node).find? (·.metadata.has kind)).map (·.name) := by
  have hdrafts : (context.outlineDraft node).properties =
      (Lineage.ofNode context.schema node).stored context := rfl
  rw [ModelDraft.firstNameWith, hdrafts, Lineage.stored_eq, List.find?_map, properties,
    List.find?_map, Option.bind_map, Option.map_map]
  exact Option.map_eq_bind.symm

theorem bind_place?_firstNameWith (kind : MarkerKind)
    (hnodup : ((context.properties node).map (·.name)).Nodup) :
    (ModelDraft.place? (context.properties node)
      ((context.outlineDraft node).firstNameWith kind)).bind ((context.properties node)[·]?) =
      (context.properties node).find? (·.metadata.has kind) := by
  rw [ModelDraft.bind_place?, firstNameWith_outlineDraft]
  cases hfound : (context.properties node).find? (·.metadata.has kind) with
  | none => rfl
  | some property => exact PropertyDescriptor.find?_name hnodup (List.mem_of_find?_eq_some hfound)

theorem idProperty?_outline (hnode : context.schema.node? key = some node)
    (h : context.outline key = .ok model) :
    model.idProperty? = model.properties.find? (·.metadata.has .id) := by
  have hnodup := names_nodup_outline h
  obtain rfl := eq_modelOf_of_outline hnode h
  have hchosen : (context.outlineDraft node).idProperty =
      (context.outlineDraft node).firstNameWith .id := Option.or_none
  change (ModelDraft.place? _ (context.outlineDraft node).idProperty).bind _ = _
  rw [hchosen]
  exact bind_place?_firstNameWith .id hnodup

theorem versionProperty?_outline (hnode : context.schema.node? key = some node)
    (h : context.outline key = .ok model) :
    model.versionProperty? = model.properties.find? (·.metadata.has .version) := by
  have hnodup := names_nodup_outline h
  obtain rfl := eq_modelOf_of_outline hnode h
  have hchosen : (context.outlineDraft node).versionProperty =
      (context.outlineDraft node).firstNameWith .version := Option.or_none
  change (ModelDraft.place? _ (context.outlineDraft node).versionProperty).bind _ = _
  rw [hchosen]
  exact bind_place?_firstNameWith .version hnodup

/-- The types of properties are no primitives, but the scalars of these. -/
theorem boxed_typeKey (hboxed : ∀ key, context.schema.boxed (context.schema.boxed key) =
      context.schema.boxed key) {property : PropertyDescriptor}
    (h : property ∈ context.properties node) :
    context.schema.boxed property.typeKey = property.typeKey := by
  obtain ⟨member, -, rfl⟩ := List.mem_map.1 h
  have hbuild (base : TypeKey) (params : List TypeDescriptor) :
      context.schema.boxed (TypeDescriptor.build context.schema base params).base =
        (TypeDescriptor.build context.schema base params).base := hboxed base
  have hdescribe (owner : TypeKey) (declared : GenericType) :
      context.schema.boxed (TypeDescriptor.describe context.schema owner declared).base =
        (TypeDescriptor.describe context.schema owner declared).base := by
    cases declared with
    | applied base args => exact hbuild _ _
    | var name => exact hbuild _ _
    | array component erased => exact hbuild _ _
  change context.schema.boxed (member.type _ context.schema).base = (member.type _ _).base
  unfold Member.type Lineage.memberType
  split
  · exact hbuild _ _
  · exact hdescribe _ _
  · exact hbuild _ _
  all_goals exact hdescribe _ _

theorem mappedName_of_id {property : PropertyDescriptor} (h : property ∈ context.properties node)
    (hid : property.metadata.has .id) : property.mappedName = idKey := by
  obtain ⟨member, -, rfl⟩ := List.mem_map.1 h
  exact if_pos hid

/-- What is not to be stored is no property, unless it is an identity. -/
theorem id_of_transient {property : PropertyDescriptor} (h : property ∈ context.properties node)
    (htransient : property.metadata.has .transient) : property.metadata.has .id := by
  obtain ⟨member, hmember, rfl⟩ := List.mem_map.1 h
  have hstored : member.isStored := (List.mem_filter.1 hmember).2
  have htransient : member.metadata.has .transient := htransient
  rw [Member.isStored, htransient] at hstored
  exact hstored

end Context

end ObjectDocument
