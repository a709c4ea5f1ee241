import ObjectDocument.Proofs.Draft.Outline

/-!
# Coherent schemas

What holds of every type of a schema that was built of declarations: the key of a type is its
place, a superclass is a class and an interface is an interface, and following superclasses comes to
an end.  The types that a model waits for are then mappable (`required_mappable`).
-/

namespace ObjectDocument.Schema

/-- The types of a schema fit together. -/
structure Coherent (schema : Schema) : Prop where
  key_eq : ∀ {key node}, schema.node? key = some node → node.key = key
  superclass_kind : ∀ {key node declared}, schema.node? key = some node →
    node.superclass = some declared →
      ∃ base args, declared = .applied base args ∧ schema.kind? base = some .classType
  interface_kind : ∀ {key node}, schema.node? key = some node → ∀ declared ∈ node.interfaces,
    ∃ base args, declared = .applied base args ∧ schema.kind? base = some .interfaceType
  acyclic : ∀ {key node}, schema.node? key = some node →
    schema.repeatedAncestor? [key] (schema.size + 1) node.superclassKey? = none
  object_kind : schema.kind? .object = some .classType
  object_superclass : schema.superclassOf? .object = none
  object_interfaces : schema.interfacesOf .object = []

/-- A type whose chain of required types has no infinite descent. -/
def Founded (schema : Schema) : TypeKey → Prop :=
  Acc fun other key => other ∈ schema.required key

theorem exists_node_of_isMappable {schema : Schema} {key : TypeKey} (h : schema.isMappable key) :
    ∃ node, schema.node? key = some node := by
  unfold isMappable kind? at h
  cases hnode : schema.node? key with
  | none => simp [hnode] at h
  | some node => exact ⟨node, rfl⟩

namespace Coherent

variable {schema : Schema}

theorem kind_of_superclassOf? (coherent : schema.Coherent) {key parent : TypeKey}
    (h : schema.superclassOf? key = some parent) : schema.kind? parent = some .classType := by
  obtain ⟨node, hnode, hparent⟩ := Option.bind_eq_some_iff.1 h
  obtain ⟨declared, hdeclared, hbase⟩ := Option.bind_eq_some_iff.1 hparent
  obtain ⟨base, args, rfl, hkind⟩ := coherent.superclass_kind hnode hdeclared
  cases hbase
  exact hkind

theorem kind_of_mem_interfacesOf (coherent : schema.Coherent) {key interface : TypeKey}
    (h : interface ∈ schema.interfacesOf key) : schema.kind? interface = some .interfaceType := by
  unfold interfacesOf at h
  cases hnode : schema.node? key with
  | none => simp [hnode] at h
  | some node =>
      simp only [hnode, Option.map_some, Option.getD_some, TypeBody.interfaceKeys,
        List.mem_filterMap] at h
      obtain ⟨declared, hdeclared, hbase⟩ := h
      obtain ⟨base, args, rfl, hkind⟩ := coherent.interface_kind hnode declared hdeclared
      cases hbase
      exact hkind

theorem parents_eq (coherent : schema.Coherent) (key : TypeKey) :
    schema.parents key = (schema.superclassOf? key).toList.filter (· ≠ .object) := by
  unfold parents ancestors
  cases hparent : schema.superclassOf? key with
  | none => cases schema.size <;> simp [superclassChain]
  | some parent =>
      have hkind := coherent.kind_of_superclassOf? hparent
      have hsize : schema.size ≠ 0 := by
        intro hzero
        have hnode : schema.node? parent = none := by
          unfold node?
          rw [List.eq_nil_of_length_eq_zero hzero]
          simp
        simp [kind?, hnode] at hkind
      obtain ⟨steps, hsteps⟩ := Nat.exists_eq_succ_of_ne_zero hsize
      rw [hsteps]
      by_cases hobject : parent = .object
      · simp [superclassChain, hobject]
      · simp [superclassChain, hobject, hkind]

theorem mem_collectInterfaces (steps : Nat) {found pending : List TypeKey} {interface : TypeKey}
    (h : interface ∈ schema.collectInterfaces steps found pending) :
    interface ∈ found ∨ interface ∈ pending ∨ ∃ key, interface ∈ schema.interfacesOf key := by
  induction steps generalizing found pending with
  | zero => exact .inl h
  | succ steps ih =>
      cases pending with
      | nil => exact .inl h
      | cons key pending =>
          rw [collectInterfaces] at h
          by_cases hkey : key ∈ found
          · rw [if_pos hkey] at h
            rcases ih h with h | h | h
            · exact .inl h
            · exact .inr (.inl (List.mem_cons_of_mem _ h))
            · exact .inr (.inr h)
          · rw [if_neg hkey] at h
            rcases ih h with h | h | h
            · rcases List.mem_append.1 h with h | h
              · exact .inl h
              · exact .inr (.inl (by simp_all))
            · rcases List.mem_append.1 h with h | h
              · exact .inr (.inr ⟨key, h⟩)
              · exact .inr (.inl (List.mem_cons_of_mem _ h))
            · exact .inr (.inr h)

theorem kind_of_mem_allInterfaces (coherent : schema.Coherent) {key interface : TypeKey}
    (h : interface ∈ schema.allInterfaces key) :
    schema.kind? interface = some .interfaceType := by
  rcases mem_collectInterfaces _ h with h | h | ⟨other, h⟩
  · cases h
  · obtain ⟨other, -, h⟩ := List.mem_flatMap.1 h
    exact coherent.kind_of_mem_interfacesOf h
  · exact coherent.kind_of_mem_interfacesOf h

theorem required_mappable (coherent : schema.Coherent) {key other : TypeKey}
    (h : other ∈ schema.required key) : schema.isMappable other := by
  unfold isMappable
  rcases List.mem_append.1 h with h | h
  · rw [coherent.parents_eq, List.mem_filter, Option.mem_toList] at h
    simp_all [coherent.kind_of_superclassOf? h.1]
  · have hkind := coherent.kind_of_mem_allInterfaces h
    have hobject : other ≠ .object := by
      rintro rfl
      rw [coherent.object_kind] at hkind
      cases hkind
    simp [hkind, hobject]

end Coherent

end ObjectDocument.Schema
