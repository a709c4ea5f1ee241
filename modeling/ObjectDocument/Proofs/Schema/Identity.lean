import ObjectDocument.Proofs.Draft.MethodPairs
import ObjectDocument.Proofs.Metadata
import ObjectDocument.Proofs.Schema.Hierarchy

/-!
# Identities in models and in declarations

A reference to a type that is still in the making is judged by the declarations alone.  They are no
stricter than models: a type whose model has an identity, or is an interface, is identifiable as far
as the declarations tell (`Context.Identifiable.inSchema`).  The converse fails, for a member that
is declared as an identity may be no property.
-/

namespace ObjectDocument

/-- The metadata of a property are those of a member of the type or an ancestor: of a field, or of a
getter and a setter. -/
theorem Lineage.exists_member {lineage : Lineage} {context : Context} {draft : PropertyDraft}
    (h : draft ∈ lineage.drafts context) :
    ∃ owner ∈ lineage.typeKey :: lineage.classes, ∃ node, context.schema.node? owner = some node ∧
      ((∃ field ∈ node.fields, draft.metadata = field.metadata) ∨
        ∃ getter ∈ node.methods, ∃ setter ∈ node.methods,
          draft.metadata = getter.metadata.union setter.metadata) := by
  have howner {level : TypeKey × Nat} (h : level ∈ lineage.levels) :
      level.1 ∈ lineage.typeKey :: lineage.classes := by
    rcases List.mem_append.1 h with h | h
    · rw [List.mem_reverse] at h
      exact List.mem_cons_of_mem _ (List.fst_mem_of_mem_zipIdx h)
    · rw [List.mem_singleton.1 h]
      exact List.mem_cons_self
  unfold drafts at h
  cases hdiscovery : context.settings.propertyDiscovery with
  | fields =>
      rw [hdiscovery] at h
      obtain ⟨level, hlevel, h⟩ := List.mem_flatMap.1 h
      obtain ⟨field, hfield, rfl⟩ := List.mem_map.1 h
      refine ⟨level.1, howner hlevel, ?_⟩
      cases hnode : context.schema.node? level.1 with
      | none => simp [hnode] at hfield
      | some node =>
          rw [hnode] at hfield
          exact ⟨node, rfl, .inl ⟨field, hfield, rfl⟩⟩
  | methods =>
      rw [hdiscovery] at h
      change draft ∈ lineage.methodDrafts context at h
      rw [methodDrafts_eq] at h
      obtain ⟨level, hlevel, h⟩ := List.mem_flatMap.1 h
      obtain ⟨name, getter, setter, pairs, h⟩ := mem_methodDraftsAt_iff.1 h
      obtain ⟨declared, -, rfl⟩ := Option.map_eq_some_iff.1 h
      obtain ⟨hgetter, hsetter⟩ := pairs.mem
      refine ⟨level.1, howner hlevel, ?_⟩
      unfold Schema.methodsOf at hgetter hsetter
      cases hnode : context.schema.node? level.1 with
      | none => simp [hnode] at hgetter
      | some node =>
          rw [hnode] at hgetter hsetter
          exact ⟨node, rfl, .inr ⟨getter, hgetter, setter, hsetter, rfl⟩⟩

/-- The search for an identity goes on in the superclass, unless that is the root. -/
theorem Schema.filter_superclassKey?_eq_some_iff {schema : Schema} {key parent : TypeKey}
    {node : TypeNode} (hnode : schema.node? key = some node) :
    node.superclassKey?.filter (· ≠ .object) = some parent ↔
      schema.Extends key parent ∧ parent ≠ .object := by
  rw [Schema.Extends, Schema.superclassOf?, hnode, Option.filter_eq_some_iff]
  simp

namespace Rule

/-- A type inherits the identity that an ancestor declares. -/
theorem inheritsId_of_chain {schema : Schema} {key owner : TypeKey} {ancestors : List TypeKey}
    (chain : schema.Chain key ancestors) (steps : Nat) (hsteps : ancestors.length < steps)
    (howner : owner ∈ key :: ancestors) {node : TypeNode} (hnode : schema.node? owner = some node)
    (hid : declaresId node) : inheritsId schema steps key := by
  induction chain generalizing steps with
  | last =>
      obtain ⟨steps, rfl⟩ : ∃ less, steps = less + 1 := ⟨steps - 1, by omega⟩
      rw [List.mem_singleton.1 howner] at hnode
      simp [inheritsId, hnode, hid]
  | @cons key parent ancestors extends_parent proper chain ih =>
      rw [List.length_cons] at hsteps
      obtain ⟨steps, rfl⟩ : ∃ less, steps = less + 1 := ⟨steps - 1, by omega⟩
      rcases List.mem_cons.1 howner with rfl | howner
      · simp [inheritsId, hnode, hid]
      · obtain ⟨child, hchild, -⟩ := Option.bind_eq_some_iff.1 extends_parent
        have hinherits := ih steps (by omega) howner
        have hproper :=
          (Schema.filter_superclassKey?_eq_some_iff hchild).2 ⟨extends_parent, proper⟩
        simp only [inheritsId, hchild, hproper, hinherits, Bool.or_true]

end Rule

/-- The type has a model that can be referred to, as far as declarations and settings decide. -/
def Context.Identifiable (context : Context) (key : TypeKey) : Prop :=
  ∃ model, context.outline key = .ok model ∧ model.isIdentifiable

theorem Context.exists_draft_of_idProperty? {context : Context} {node : TypeNode}
    {properties : List PropertyDescriptor}
    (h : ((context.outlineDraft node).modelOf context properties).idProperty?.isSome) :
    ∃ draft ∈ (Lineage.ofNode context.schema node).drafts context, draft.metadata.has .id := by
  obtain ⟨property, hproperty⟩ := Option.isSome_iff_exists.1 h
  obtain ⟨index, hindex, -⟩ := Option.bind_eq_some_iff.1 hproperty
  obtain ⟨name, hname, -⟩ := Option.bind_eq_some_iff.1 hindex
  have hfirst : (((ModelDraft.ofNode context.schema node none []).addProperties
      ((Lineage.ofNode context.schema node).drafts context)).retain
        PropertyDraft.isStored).firstNameWith .id = some name := by
    rcases Option.or_eq_some_iff.1 hname with hname | ⟨-, hname⟩
    · exact hname
    · cases hname
  obtain ⟨draft, hdraft, -⟩ := Option.bind_eq_some_iff.1 hfirst
  have hhas := List.find?_some hdraft
  exact ⟨draft, List.mem_of_mem_filter (List.mem_of_find?_eq_some hdraft), hhas⟩

/-- A type that can be referred to by its model can be by its declarations. -/
theorem Context.Identifiable.inSchema {context : Context} {key : TypeKey}
    (coherent : context.schema.Coherent) (h : context.Identifiable key) :
    Rule.identifiableInSchema context.schema key := by
  obtain ⟨model, houtline, hidentifiable⟩ := h
  obtain ⟨node, properties, hnode, -, rfl⟩ := Context.exists_of_outline houtline
  obtain rfl := coherent.key_eq hnode
  unfold Rule.identifiableInSchema
  rw [EntityModel.isIdentifiable, Bool.or_eq_true] at hidentifiable
  rw [Bool.or_eq_true]
  rcases hidentifiable with hid | hinterface
  · right
    obtain ⟨draft, hdraft, hhas⟩ := exists_draft_of_idProperty? hid
    obtain ⟨owner, howner, other, hother, hmember⟩ := Lineage.exists_member hdraft
    have hdeclares : Rule.declaresId other := by
      rw [Rule.declaresId, Bool.or_eq_true, List.any_eq_true, List.any_eq_true]
      rcases hmember with ⟨field, hfield, heq⟩ | ⟨getter, hgetter, setter, hsetter, heq⟩
      · rw [heq] at hhas
        exact .inl ⟨field, hfield, hhas⟩
      · rw [heq] at hhas
        rcases Metadata.has_union_iff.1 hhas with hhas | hhas
        · exact .inr ⟨getter, hgetter, hhas⟩
        · exact .inr ⟨setter, hsetter, hhas⟩
    have chain := coherent.chain_ancestors node.key
    exact Rule.inheritsId_of_chain chain _ (chain.length_lt coherent hnode) howner hother hdeclares
  · left
    have hkind : node.kind = .interfaceType := by
      simpa [TypeNode.isInterface] using (show node.isInterface from hinterface)
    simp [Schema.kind?, hnode, hkind]

end ObjectDocument
