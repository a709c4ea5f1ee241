import Mathlib.Data.Set.Function
import ObjectDocument.Proofs.Schema.Arity
import ObjectDocument.Proofs.Schema.Closed

/-!
# Schemas with other keys

The key of a type is its place, and says nothing else of it.  `IsomorphicBy` relates two schemas of
the same types at different places: a bijection of keys, which leaves the built-in types alone,
takes each type of one to that of the other with all keys in it, and arrays to arrays.  What the
check finds wrong with a type does not depend on keys, so a type that passes it in one schema passes
it in the other (`IsomorphicBy.hierarchyFault?_eq_none`).
-/

namespace ObjectDocument

/-! ### Other keys in members -/

namespace GenericType

variable {rekey : TypeKey → TypeKey}

mutual
def rekeyed (rekey : TypeKey → TypeKey) : GenericType → GenericType
  | .applied base args => .applied (rekey base) (rekeyedList rekey args)
  | .var name => .var name
  | .array component erased => .array (rekeyed rekey component) (rekey erased)

def rekeyedList (rekey : TypeKey → TypeKey) : List GenericType → List GenericType
  | [] => []
  | declared :: rest => rekeyed rekey declared :: rekeyedList rekey rest
end

theorem length_rekeyedList (declared : List GenericType) :
    (rekeyedList rekey declared).length = declared.length := by
  induction declared with
  | nil => rfl
  | cons first rest ih => rw [rekeyedList, List.length_cons, List.length_cons, ih]

@[simp] theorem base?_rekeyed (declared : GenericType) :
    (declared.rekeyed rekey).base? = declared.base?.map rekey := by
  cases declared <;> rfl

mutual
theorem references_rekeyed : (declared : GenericType) →
    (declared.rekeyed rekey).references = declared.references.map (Prod.map rekey id)
  | .applied base args => by
      rw [rekeyed, references, references, length_rekeyedList, referencesIn_rekeyedList args]
      rfl
  | .var name => rfl
  | .array component erased => by
      rw [rekeyed, references, references, references_rekeyed component]

theorem referencesIn_rekeyedList : (declared : List GenericType) →
    referencesIn (rekeyedList rekey declared) =
      (referencesIn declared).map (Prod.map rekey id)
  | [] => rfl
  | first :: rest => by
      rw [rekeyedList, referencesIn, referencesIn, references_rekeyed first,
        referencesIn_rekeyedList rest, List.map_append]
end

mutual
theorem key_mem_of_mem_references : (declared : GenericType) →
    ∀ reference ∈ declared.references, reference.1 ∈ declared.keys
  | .applied base args => by
      rw [references, keys, List.forall_mem_cons]
      exact ⟨List.mem_cons_self, fun reference hreference =>
        List.mem_cons_of_mem _ (key_mem_of_mem_referencesIn args reference hreference)⟩
  | .var name => by
      rw [references]
      exact List.forall_mem_nil _
  | .array component erased => by
      rw [references, keys]
      exact fun reference hreference =>
        List.mem_append_left _ (key_mem_of_mem_references component reference hreference)

theorem key_mem_of_mem_referencesIn : (declared : List GenericType) →
    ∀ reference ∈ referencesIn declared, reference.1 ∈ keysIn declared
  | [] => by
      rw [referencesIn]
      exact List.forall_mem_nil _
  | first :: rest => by
      rw [referencesIn, keysIn, List.forall_mem_append]
      exact ⟨fun reference hreference =>
          List.mem_append_left _ (key_mem_of_mem_references first reference hreference),
        fun reference hreference =>
          List.mem_append_right _ (key_mem_of_mem_referencesIn rest reference hreference)⟩
end

end GenericType

def TypeParam.rekeyed (rekey : TypeKey → TypeKey) (param : TypeParam) : TypeParam :=
  { param with bound := param.bound.map (·.rekeyed rekey) }

def DeclaredField.rekeyed (rekey : TypeKey → TypeKey) (field : DeclaredField) : DeclaredField :=
  { field with declared := field.declared.rekeyed rekey }

def DeclaredMethod.rekeyed (rekey : TypeKey → TypeKey) (method : DeclaredMethod) :
    DeclaredMethod :=
  { method with declared := method.declared.map (·.rekeyed rekey) }

def TypeBody.rekeyed (rekey : TypeKey → TypeKey) (body : TypeBody) : TypeBody :=
  { body with
    params := body.params.map (·.rekeyed rekey)
    superclass := body.superclass.map (·.rekeyed rekey)
    interfaces := body.interfaces.map (·.rekeyed rekey)
    fields := body.fields.map (·.rekeyed rekey)
    methods := body.methods.map (·.rekeyed rekey) }

def TypeKind.rekeyed (rekey : TypeKey → TypeKey) : TypeKind → TypeKind
  | .primitive boxed => .primitive (rekey boxed)
  | .array component => .array (rekey component)
  | kind => kind

def TypeNode.rekeyed (rekey : TypeKey → TypeKey) (node : TypeNode) : TypeNode :=
  ⟨node.toTypeBody.rekeyed rekey, rekey node.key, node.name, node.kind.rekeyed rekey⟩

@[simp] theorem TypeBody.superclassKey?_rekeyed (rekey : TypeKey → TypeKey) (body : TypeBody) :
    (body.rekeyed rekey).superclassKey? = body.superclassKey?.map rekey := by
  unfold superclassKey? rekeyed
  cases body.superclass <;> simp

@[simp] theorem TypeNode.isInterface_rekeyed (rekey : TypeKey → TypeKey) (node : TypeNode) :
    (node.rekeyed rekey).isInterface = node.isInterface := by
  unfold isInterface rekeyed
  cases node.kind <;> simp [TypeKind.rekeyed]

/-! ### Schemas of the same types -/

namespace Schema

/-- The types of one schema, taken to other keys with all that refers to them, are those of the
other schema. -/
structure IsomorphicBy (schema other : Schema) (rekey : TypeKey → TypeKey) : Prop where
  bijective : Set.BijOn rekey {key | key.index < schema.size} {key | key.index < other.size}
  builtin : ∀ {key : TypeKey}, key.index < builtins.size → rekey key = key
  node : ∀ {key : TypeKey}, key.index < schema.size →
    other.node? (rekey key) = (schema.node? key).map (TypeNode.rekeyed rekey)
  array : ∀ {component : TypeKey}, component.index < schema.size →
    other.arrayOf? (rekey component) = (schema.arrayOf? component).map rekey

namespace IsomorphicBy

variable {schema other : Schema} {rekey : TypeKey → TypeKey} {key : TypeKey}

theorem kind? (iso : schema.IsomorphicBy other rekey) (h : key.index < schema.size) :
    other.kind? (rekey key) = (schema.kind? key).map (TypeKind.rekeyed rekey) := by
  rw [Schema.kind?, iso.node h, Schema.kind?, Option.map_map, Option.map_map]
  rfl

theorem length_paramsOf (iso : schema.IsomorphicBy other rekey) (h : key.index < schema.size) :
    (other.paramsOf (rekey key)).length = (schema.paramsOf key).length := by
  rw [paramsOf, iso.node h, paramsOf]
  cases schema.node? key with
  | none => rfl
  | some node => simp [TypeNode.rekeyed, TypeBody.rekeyed]

theorem superclassOf? (iso : schema.IsomorphicBy other rekey) (h : key.index < schema.size) :
    other.superclassOf? (rekey key) = (schema.superclassOf? key).map rekey := by
  rw [Schema.superclassOf?, iso.node h, Schema.superclassOf?]
  cases schema.node? key with
  | none => rfl
  | some node => simp [TypeNode.rekeyed]

theorem size_le (iso : schema.IsomorphicBy other rekey) : schema.size ≤ other.size := by
  let keys : List TypeKey := (List.range schema.size).map TypeKey.mk
  have hkeys (key : TypeKey) (h : key ∈ keys) : key.index < schema.size := by
    obtain ⟨place, hplace, rfl⟩ := List.mem_map.1 h
    exact List.mem_range.1 hplace
  have hnodup : (keys.map rekey).Nodup := by
    refine List.Nodup.map_on (fun key hkey found hfound => ?_)
      (List.nodup_range.map fun _ _ => congrArg TypeKey.index)
    exact iso.bijective.injOn (hkeys key hkey) (hkeys found hfound)
  have hlength := length_le_size hnodup (List.forall_mem_map.2 fun key hkey =>
    exists_node_of_lt (iso.bijective.mapsTo (hkeys key hkey)))
  simpa [keys] using hlength

theorem fits (iso : schema.IsomorphicBy other rekey) {declared : GenericType}
    (hkeys : ∀ key ∈ declared.keys, key.index < schema.size) (h : schema.Fits declared) :
    other.Fits (declared.rekeyed rekey) := by
  rw [Fits, GenericType.references_rekeyed, List.forall_mem_map]
  intro reference hreference hkind
  have hlt := hkeys _ (declared.key_mem_of_mem_references reference hreference)
  rw [Prod.map_fst, iso.kind? hlt] at hkind
  rw [Prod.map_fst, iso.length_paramsOf hlt]
  refine h reference hreference fun hundeclared => hkind ?_
  rw [hundeclared]
  rfl

theorem applied_rekeyed (iso : schema.IsomorphicBy other rekey) {base : TypeKey}
    {args : List GenericType} {kind : TypeKind}
    (hlt : ∀ key ∈ (GenericType.applied base args).keys, key.index < schema.size)
    (hkind : schema.kind? base = some kind) (hfits : schema.Fits (.applied base args)) :
    other.kind? (rekey base) = some (kind.rekeyed rekey) ∧
      other.Fits (.applied (rekey base) (GenericType.rekeyedList rekey args)) := by
  refine ⟨?_, iso.fits hlt hfits⟩
  rw [iso.kind? (hlt base (by simp [GenericType.keys])), hkind, Option.map_some]

/-! ### The check under other keys -/

section

variable (hkeys : ∀ {key : TypeKey} {node : TypeNode}, schema.node? key = some node →
  ∀ found ∈ node.keys, found.index < schema.size)

include hkeys

theorem lt_of_declared {node : TypeNode} (hnode : schema.node? key = some node)
    {declared : GenericType} (hmem : declared ∈ node.declaredTypes) :
    ∀ found ∈ declared.keys, found.index < schema.size :=
  fun found hfound => hkeys hnode found
    (List.mem_append_right _ (List.mem_flatMap.2 ⟨declared, hmem, hfound⟩))

theorem lt_of_superclassKey? {node : TypeNode} (hnode : schema.node? key = some node)
    {parent : TypeKey} (h : node.superclassKey? = some parent) : parent.index < schema.size := by
  obtain ⟨declared, hsuperclass, hbase⟩ := Option.bind_eq_some_iff.1 h
  obtain ⟨args, rfl⟩ := exists_of_base? hbase
  exact lt_of_declared hkeys hnode (TypeBody.superclass_mem_declaredTypes hsuperclass) parent
    (by simp [GenericType.keys])

/-- Following superclasses meets the same types under other keys. -/
theorem repeatedAncestor? (iso : schema.IsomorphicBy other rekey) (steps : Nat)
    {visited : List TypeKey} {start : Option TypeKey}
    (hvisited : ∀ key ∈ visited, key.index < schema.size)
    (hstart : ∀ key ∈ start, key.index < schema.size) :
    other.repeatedAncestor? (visited.map rekey) steps (start.map rekey) =
      (schema.repeatedAncestor? visited steps start).map rekey := by
  induction steps generalizing visited start with
  | zero => rfl
  | succ steps ih =>
      cases start with
      | none => rfl
      | some key =>
          have hkey := hstart key rfl
          have hmem : rekey key ∈ visited.map rekey ↔ key ∈ visited := by
            refine ⟨fun h => ?_, fun h => List.mem_map_of_mem h⟩
            obtain ⟨found, hfound, heq⟩ := List.mem_map.1 h
            exact iso.bijective.injOn (hvisited found hfound) hkey heq ▸ hfound
          rw [Option.map_some, Schema.repeatedAncestor?, Schema.repeatedAncestor?]
          by_cases hrepeated : key ∈ visited
          · rw [if_pos (hmem.2 hrepeated), if_pos hrepeated, Option.map_some]
          · rw [if_neg (hmem.not.2 hrepeated), if_neg hrepeated, iso.superclassOf? hkey,
              ← List.map_cons]
            refine ih (List.forall_mem_cons.2 ⟨hkey, hvisited⟩) fun parent hparent => ?_
            obtain ⟨node, hnode, hsuperclass⟩ := Option.bind_eq_some_iff.1 hparent
            exact lt_of_superclassKey? hkeys hnode hsuperclass

theorem hierarchyFault?_eq_none (iso : schema.IsomorphicBy other rekey)
    (hsize : other.size = schema.size) {node : TypeNode} (hnode : schema.node? key = some node)
    (h : schema.hierarchyFault? node = none) :
    other.hierarchyFault? (node.rekeyed rekey) = none := by
  obtain ⟨hsuperclass, hinterfaces, hfields, hcycle⟩ := hierarchyFault?_eq_none_iff.1 h
  refine hierarchyFault?_eq_none_iff.2 ⟨fun declared hmem => ?_, fun declared hmem => ?_,
    fun field hmem => ?_, ?_⟩
  · obtain ⟨found, hfound, rfl⟩ := Option.map_eq_some_iff.1 hmem
    obtain ⟨base, args, rfl, hinterface, hkind, hfits⟩ := hsuperclass found hfound
    have hlt := lt_of_declared hkeys hnode (TypeBody.superclass_mem_declaredTypes hfound)
    exact ⟨_, _, rfl, by rw [TypeNode.isInterface_rekeyed, hinterface],
      iso.applied_rekeyed hlt hkind hfits⟩
  · obtain ⟨found, hfound, rfl⟩ := List.mem_map.1 hmem
    obtain ⟨base, args, rfl, hkind, hfits⟩ := hinterfaces found hfound
    have hlt := lt_of_declared hkeys hnode (TypeBody.interface_mem_declaredTypes hfound)
    exact ⟨_, _, rfl, iso.applied_rekeyed hlt hkind hfits⟩
  · obtain ⟨found, hfound, rfl⟩ := List.mem_map.1 hmem
    exact iso.fits (lt_of_declared hkeys hnode (TypeBody.field_mem_declaredTypes hfound))
      (hfields found hfound)
  · have hsame := iso.repeatedAncestor? hkeys (schema.size + 1)
      (List.forall_mem_singleton.2 (hkeys hnode _ List.mem_cons_self))
      fun parent hparent => lt_of_superclassKey? hkeys hnode hparent
    rw [hcycle] at hsame
    rw [hsize]
    simpa [TypeNode.rekeyed] using hsame

end

end IsomorphicBy

end Schema

end ObjectDocument
