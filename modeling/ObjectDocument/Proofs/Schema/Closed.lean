import ObjectDocument.Proofs.Schema.Hierarchy
import ObjectDocument.Proofs.Schema.Populated

/-!
# Schemas are closed and well founded

What is in a schema refers to nothing outside of it, and not endlessly to itself.  `Closed` spells
this out.  Every key is that of a type, every variable is a parameter of its own type and bounds
none of these, superclasses are classes and interfaces are interfaces.  Climbing from superclass to
superclass ends, and so does going from arrays to their components, which lead back to the arrays.

Declared types owe this to what their declarations mean and to the check at the end, and all others
to having no members.  So every schema that is built is closed (`Declarations.closed_of_build`).
-/

namespace ObjectDocument

namespace Schema

/-- Following superclasses from a type meets the types of a list, its own first, and ends. -/
inductive Climbs (schema : Schema) : TypeKey → List TypeKey → Prop where
  | top {key : TypeKey} (h : schema.superclassOf? key = none) : Climbs schema key [key]
  | up {key parent : TypeKey} {keys : List TypeKey} (h : schema.superclassOf? key = some parent)
    (rest : Climbs schema parent keys) : Climbs schema key (key :: keys)

/-- A schema refers to nothing outside of it, and not endlessly to itself. -/
structure Closed (schema : Schema) : Prop where
  key_eq : ∀ {key : TypeKey} {node : TypeNode}, schema.node? key = some node → node.key = key
  key_lt : ∀ {key : TypeKey} {node : TypeNode}, schema.node? key = some node →
    ∀ other ∈ node.keys, other.index < schema.size
  variable_mem : ∀ {key : TypeKey} {node : TypeNode}, schema.node? key = some node →
    ∀ declared ∈ node.declaredTypes, ∀ name ∈ declared.usedNames, name ∈ node.paramNames
  bound_proper : ∀ {key : TypeKey} {node : TypeNode}, schema.node? key = some node →
    ∀ param ∈ node.params, ∀ bound ∈ param.bound, bound.isVariable = false
  superclass_kind : ∀ {key : TypeKey} {node : TypeNode}, schema.node? key = some node →
    ∀ declared ∈ node.superclass,
      ∃ base args, declared = .applied base args ∧ schema.kind? base = some .classType
  interface_kind : ∀ {key : TypeKey} {node : TypeNode}, schema.node? key = some node →
    ∀ declared ∈ node.interfaces,
      ∃ base args, declared = .applied base args ∧ schema.kind? base = some .interfaceType
  climbs : ∀ key, ∃ keys, schema.Climbs key keys ∧ keys.Nodup
  array_component : ∀ {array component : TypeKey},
    schema.componentOf? array = some component ↔ schema.arrayOf? component = some array
  component_lt : ∀ {array component : TypeKey}, schema.componentOf? array = some component →
    component.index < array.index

variable {schema : Schema} {types : List TypeDeclaration} {key other : TypeKey}

namespace Climbs

theorem reflTransGen {keys : List TypeKey} (climbs : schema.Climbs key keys) (h : other ∈ keys) :
    Relation.ReflTransGen schema.Extends key other := by
  induction climbs with
  | top => rw [List.mem_singleton.1 h]
  | up hparent _ ih =>
      rcases List.mem_cons.1 h with rfl | h
      · exact .refl
      · exact .head hparent (ih h)

end Climbs

theorem Coherent.exists_climbs (coherent : schema.Coherent) (key : TypeKey) :
    ∃ keys, schema.Climbs key keys ∧ keys.Nodup := by
  induction coherent.acc_extends key with
  | intro key _ ih =>
      cases hparent : schema.superclassOf? key with
      | none => exact ⟨[key], .top hparent, List.nodup_singleton key⟩
      | some parent =>
          obtain ⟨keys, hclimbs, hnodup⟩ := ih parent hparent
          refine ⟨key :: keys, .up hparent hclimbs, List.nodup_cons.2 ⟨fun hmem => ?_, hnodup⟩⟩
          -- A type among its own superclasses would be below itself.
          exact not_transGen_of_acc (coherent.acc_extends key)
            (.head' hparent (hclimbs.reflTransGen hmem))

theorem Populated.written (populated : Populated types types.length schema) {node : TypeNode}
    (h : schema.node? key = some node) :
    (∀ declared ∈ node.declaredTypes, schema.Written node.paramNames declared) ∧
      ∀ param ∈ node.params, ∀ bound ∈ param.bound, bound.isVariable = false := by
  rcases populated.node?_cases h with ⟨-, hbuiltin⟩ |
    ⟨place, declaration, body, -, rfl, rfl, hmeans⟩ | ⟨-, hbare, -⟩
  · obtain ⟨-, hnone, hbounds⟩ := builtin_of_node? hbuiltin
    rw [hnone]
    refine ⟨List.forall_mem_nil _, fun param hparam bound hbound => ?_⟩
    rw [hbounds param hparam] at hbound
    cases hbound
  · exact ⟨hmeans.written, fun param hparam bound hbound =>
      (hmeans.params.written param hparam bound hbound).1⟩
  · rw [hbare]
    exact ⟨List.forall_mem_nil _, List.forall_mem_nil _⟩

theorem Populated.grounded (populated : Populated types types.length schema) {node : TypeNode}
    (h : schema.node? key = some node) :
    (∀ declared ∈ node.declaredTypes, schema.Grounded node.paramNames declared) ∧
      ∀ param ∈ node.params, ∀ bound ∈ param.bound, bound.isVariable = false :=
  have ⟨hwritten, hbounds⟩ := populated.written h
  ⟨fun declared hdeclared => (hwritten declared hdeclared).grounded, hbounds⟩

theorem Populated.kind_keys_lt (populated : Populated types types.length schema) {node : TypeNode}
    (h : schema.node? key = some node) : ∀ other ∈ node.kind.keys, other.index < schema.size := by
  have hbare (hkind : node.kind = .undeclared ∨ ∃ component, node.kind = .array component) :
      ∀ other ∈ node.kind.keys, other.index < schema.size := by
    rcases hkind with hkind | ⟨component, hkind⟩
    · rw [hkind]
      exact List.forall_mem_nil _
    · rw [hkind]
      have hcomponent : schema.componentOf? key = some component :=
        componentOf?_eq_some_iff.2 ⟨node.name, hkind ▸ getElem?_heads_of_node? h⟩
      exact List.forall_mem_singleton.2
        (Nat.lt_trans (populated.indexed.component_lt hcomponent) (lt_of_node? h))
  rcases populated.node?_cases h with ⟨-, hbuiltin⟩ |
    ⟨place, declaration, body, -, -, rfl, -⟩ | ⟨-, -, hkind, -⟩
  · exact fun other hother => populated.lt_of_builtin ((builtin_of_node? hbuiltin).1 other hother)
  · cases declaration.kind <;> exact List.forall_mem_nil _
  · exact hbare hkind

theorem Populated.key_lt (populated : Populated types types.length schema) {node : TypeNode}
    (h : schema.node? key = some node) : ∀ other ∈ node.keys, other.index < schema.size := by
  refine List.forall_mem_cons.2 ⟨?_, List.forall_mem_append.2
    ⟨populated.kind_keys_lt h, fun other hother => ?_⟩⟩
  · rw [populated.indexed.keyed h]
    exact lt_of_node? h
  · obtain ⟨declared, hdeclared, hkey⟩ := List.mem_flatMap.1 hother
    exact ((populated.grounded h).1 declared hdeclared).1 other hkey

end Schema

open Schema in
/-- Every schema that is built is closed: its keys are its own, its variables are parameters of the
types that use them, its hierarchy ends, and its arrays and their components lead to each other. -/
theorem Declarations.closed_of_build {declarations : Declarations} {schema : Schema}
    (h : declarations.build = .ok schema) : schema.Closed := by
  have populated := populated_of_ofTypes (ofTypes_of_build h)
  have coherent := coherent h
  exact
    { key_eq := coherent.key_eq
      key_lt := populated.key_lt
      variable_mem := fun hnode declared hdeclared =>
        ((populated.grounded hnode).1 declared hdeclared).2
      bound_proper := fun hnode => (populated.grounded hnode).2
      superclass_kind := fun hnode _ hdeclared => coherent.superclass_kind hnode hdeclared
      interface_kind := fun hnode => coherent.interface_kind hnode
      climbs := coherent.exists_climbs
      array_component := populated.indexed.arrayOf?_eq_some_iff.symm
      component_lt := populated.indexed.component_lt }

def Declarations.archive : Declarations :=
  .ofList [
    { name := "Entry", params := [("T", some "[Line<T>]")], superclass := some "Record<T>",
      fields := [{ name := "lines", type := "[T]" }] },
    { name := "Record", params := [("R", none)], interfaces := ["Kept"],
      methods := [{ name := "getLast", shape := .getter, type := some "Map<String, R>" }] },
    { name := "Kept", kind := .interfaceType }]

/-- The arrays that were added for the parameter are found from their components. -/
theorem Declarations.closed_of_build_archive :
    archive.build.isOk ∧ archive.schema.arrayOf? ⟨28⟩ = some ⟨29⟩ ∧
      archive.schema.arrayOf? ⟨29⟩ = some ⟨30⟩ := by
  have hbuild : archive.build.isOk := by decide +kernel
  have closed := closed_of_build (build_eq_schema hbuild)
  have hbound : archive.schema.componentOf? ⟨29⟩ = some ⟨28⟩ := by decide +kernel
  have hfield : archive.schema.componentOf? ⟨30⟩ = some ⟨29⟩ := by decide +kernel
  exact ⟨hbuild, closed.array_component.1 hbound, closed.array_component.1 hfield⟩

end ObjectDocument
