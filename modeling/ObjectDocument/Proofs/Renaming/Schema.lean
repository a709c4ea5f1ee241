import Mathlib.Logic.Function.Basic
import ObjectDocument.Lineage

/-!
# Schemas with renamed type parameters

A type parameter has a name only so that the members of its type can refer to it.  A renaming takes
the names of one type to others that differ; `Schema.rename` puts the new names wherever the members
of that type have the old ones.  Keys, names and kinds stay, and so does everything that is read off
them and off superclasses and interfaces without their arguments.  Within its type, a renamed type
erases to what it erased to before (`eraseIn_rename`).
-/

namespace ObjectDocument

structure Renaming where
  key : TypeKey
  name : String → String
  injective : Function.Injective name

namespace Renaming

def within (renames : Renaming) (key : TypeKey) : String → String :=
  if key = renames.key then renames.name else id

theorem injective_within (renames : Renaming) (key : TypeKey) :
    Function.Injective (renames.within key) := by
  unfold within
  by_cases h : key = renames.key
  · rw [if_pos h]
    exact renames.injective
  · rw [if_neg h]
    exact Function.injective_id

end Renaming

/-! ### Declared types -/

namespace GenericType

variable {names : String → String}

mutual
def rename (names : String → String) : GenericType → GenericType
  | .applied base args => .applied base (renameList names args)
  | .var name => .var (names name)
  | .array component erased => .array (rename names component) erased

def renameList (names : String → String) : List GenericType → List GenericType
  | [] => []
  | declared :: rest => rename names declared :: renameList names rest
end

theorem renameList_eq_map (declared : List GenericType) :
    renameList names declared = declared.map (rename names) := by
  induction declared with
  | nil => rfl
  | cons first rest ih => rw [renameList, ih, List.map_cons]

mutual
@[simp] theorem rename_id : (declared : GenericType) → declared.rename id = declared
  | .applied base args => by rw [rename, renameList_id args]
  | .var name => rfl
  | .array component erased => by rw [rename, rename_id component]

theorem renameList_id : (declared : List GenericType) → renameList id declared = declared
  | [] => rfl
  | first :: rest => by rw [renameList, rename_id first, renameList_id rest]
end

@[simp] theorem base?_rename (declared : GenericType) : (declared.rename names).base? =
    declared.base? := by
  cases declared <;> rfl

@[simp] theorem variableName?_rename (declared : GenericType) :
    (declared.rename names).variableName? = declared.variableName?.map names := by
  cases declared <;> rfl

@[simp] theorem isVariable_rename (declared : GenericType) :
    (declared.rename names).isVariable = declared.isVariable := by
  cases declared <;> rfl

end GenericType

namespace TypeParam

def rename (names : String → String) (param : TypeParam) : TypeParam where
  name := names param.name
  bound := param.bound.map (·.rename names)

@[simp] theorem rename_id (param : TypeParam) : param.rename id = param := by
  cases param with
  | mk name bound => cases bound <;> simp [rename]

theorem any_rename {names : String → String} (injective : Function.Injective names)
    (scope : List TypeParam) (name : String) :
    (scope.map (rename names)).any (·.name = names name) = scope.any (·.name = name) := by
  simp [rename, List.any_map, Function.comp_def, injective.eq_iff]

end TypeParam

theorem Schema.eraseIn_rename {names : String → String} (injective : Function.Injective names)
    (scope : List TypeParam) (declared : GenericType) :
    eraseIn (scope.map (TypeParam.rename names)) (declared.rename names) =
      eraseIn scope declared := by
  cases declared with
  | applied base args => rfl
  | array component erased => rfl
  | var name =>
      have hfind : (scope.map (TypeParam.rename names)).find? (·.name = names name) =
          (scope.find? (·.name = name)).map (TypeParam.rename names) := by
        simp [List.find?_map, Function.comp_def, TypeParam.rename, injective.eq_iff]
      simp only [GenericType.rename, eraseIn, hfind]
      cases hparam : scope.find? (·.name = name) with
      | none => rfl
      | some param =>
          cases hbound : param.bound with
          | none => simp [TypeParam.rename, hbound]
          | some bound => cases bound <;> simp [TypeParam.rename, GenericType.rename, hbound]

/-! ### Types -/

def DeclaredField.rename (names : String → String) (field : DeclaredField) : DeclaredField :=
  { field with declared := field.declared.rename names }

def DeclaredMethod.rename (names : String → String) (method : DeclaredMethod) : DeclaredMethod :=
  { method with declared := method.declared.map (·.rename names) }

def TypeBody.rename (names : String → String) (body : TypeBody) : TypeBody :=
  { body with
    params := body.params.map (·.rename names)
    superclass := body.superclass.map (·.rename names)
    interfaces := body.interfaces.map (·.rename names)
    fields := body.fields.map (·.rename names)
    methods := body.methods.map (·.rename names) }

def TypeNode.rename (names : String → String) (node : TypeNode) : TypeNode :=
  { node with toTypeBody := node.toTypeBody.rename names }

@[simp] theorem TypeBody.rename_id (body : TypeBody) : body.rename id = body := by
  have hfield : DeclaredField.rename id = id := by
    funext field
    simp [DeclaredField.rename]
  have hmethod : DeclaredMethod.rename id = id := by
    funext method
    simp [DeclaredMethod.rename]
  simp [rename, hfield, hmethod]

@[simp] theorem TypeNode.rename_id (node : TypeNode) : node.rename id = node := by
  simp [rename]

@[simp] theorem TypeBody.superclassKey?_rename (names : String → String) (body : TypeBody) :
    (body.rename names).superclassKey? = body.superclassKey? := by
  simp [superclassKey?, rename, Option.bind_map, Function.comp_def]

@[simp] theorem TypeBody.interfaceKeys_rename (names : String → String) (body : TypeBody) :
    (body.rename names).interfaceKeys = body.interfaceKeys := by
  simp [interfaceKeys, rename, List.filterMap_map, Function.comp_def]

/-! ### Schemas -/

namespace Schema

def rename (schema : Schema) (renames : Renaming) : Schema :=
  ⟨schema.nodes.modify renames.key.index (TypeNode.rename renames.name)⟩

variable {schema : Schema} {renames : Renaming}

theorem node?_rename (key : TypeKey) : (schema.rename renames).node? key =
    (schema.node? key).map (TypeNode.rename (renames.within key)) := by
  have hkey : renames.key.index = key.index ↔ key = renames.key := by
    cases key
    cases hrenamed : renames.key
    simp [eq_comm]
  unfold node? rename Renaming.within
  rw [List.getElem?_modify]
  by_cases h : key = renames.key
  · rw [if_pos h]
    cases schema.nodes[key.index]? <;> simp [h]
  · rw [if_neg h]
    cases schema.nodes[key.index]? <;> simp [h, hkey]

/-- What is read off nodes without the names of parameters stays. -/
theorem map_nodes_rename {α : Type} (f : TypeNode → α)
    (h : ∀ node, f (node.rename renames.name) = f node) :
    (schema.rename renames).nodes.map f = schema.nodes.map f := by
  refine List.ext_getElem? fun place => ?_
  rw [List.getElem?_map, List.getElem?_map, rename, List.getElem?_modify]
  cases schema.nodes[place]? with
  | none => rfl
  | some node => by_cases hplace : renames.key.index = place <;> simp [hplace, h]

@[simp] theorem size_rename : (schema.rename renames).size = schema.size := by
  simp [size, rename]

@[simp] theorem name_rename (key : TypeKey) :
    (schema.rename renames).name key = schema.name key := by
  simp [name, node?_rename, Function.comp_def, TypeNode.rename]

@[simp] theorem kind?_rename (key : TypeKey) :
    (schema.rename renames).kind? key = schema.kind? key := by
  simp [kind?, node?_rename, Function.comp_def, TypeNode.rename]

@[simp] theorem lookup?_rename (name : String) :
    (schema.rename renames).lookup? name = schema.lookup? name := by
  have hlookup (nodes : List TypeNode) :
      (nodes.reverse.find? (·.name = name)).map (·.key) =
        (((nodes.map fun node => (node.name, node.key)).reverse.find? (·.1 = name))).map (·.2) := by
    rw [← List.map_reverse, List.find?_map]
    simp [Function.comp_def]
  rw [lookup?, lookup?, hlookup, hlookup, map_nodes_rename _ fun _ => rfl]

@[simp] theorem arrayOf?_rename (component : TypeKey) :
    (schema.rename renames).arrayOf? component = schema.arrayOf? component := by
  have harray (nodes : List TypeNode) :
      (nodes.find? (·.kind = .array component)).map (·.key) =
        ((nodes.map fun node => (node.kind, node.key)).find? (·.1 = .array component)).map
          (·.2) := by
    rw [List.find?_map]
    simp [Function.comp_def]
  rw [arrayOf?, arrayOf?, harray, harray, map_nodes_rename _ fun _ => rfl]

@[simp] theorem boxed_rename (key : TypeKey) :
    (schema.rename renames).boxed key = schema.boxed key := by
  simp [boxed]

@[simp] theorem componentOf?_rename (key : TypeKey) :
    (schema.rename renames).componentOf? key = schema.componentOf? key := by
  simp [componentOf?]

@[simp] theorem isArray_rename (key : TypeKey) :
    (schema.rename renames).isArray key = schema.isArray key := by
  simp [isArray]

@[simp] theorem isMappable_rename (key : TypeKey) :
    (schema.rename renames).isMappable key = schema.isMappable key := by
  simp [isMappable]

@[simp] theorem elementKind_rename (key : TypeKey) :
    (schema.rename renames).elementKind key = schema.elementKind key := by
  simp [elementKind]

theorem paramsOf_rename (key : TypeKey) : (schema.rename renames).paramsOf key =
    (schema.paramsOf key).map (TypeParam.rename (renames.within key)) := by
  unfold paramsOf
  rw [node?_rename]
  cases schema.node? key <;> rfl

theorem erasure_rename (owner : TypeKey) (declared : GenericType) :
    (schema.rename renames).erasure owner (declared.rename (renames.within owner)) =
      schema.erasure owner declared := by
  rw [erasure, paramsOf_rename, eraseIn_rename (renames.injective_within owner), erasure]

@[simp] theorem superclassOf?_rename (key : TypeKey) :
    (schema.rename renames).superclassOf? key = schema.superclassOf? key := by
  unfold superclassOf?
  rw [node?_rename]
  cases schema.node? key <;> simp [TypeNode.rename]

@[simp] theorem interfacesOf_rename (key : TypeKey) :
    (schema.rename renames).interfacesOf key = schema.interfacesOf key := by
  unfold interfacesOf
  rw [node?_rename]
  cases schema.node? key <;> simp [TypeNode.rename]

theorem declaredSuperclass?_rename (key : TypeKey) :
    (schema.rename renames).declaredSuperclass? key =
      (schema.declaredSuperclass? key).map (GenericType.rename (renames.within key)) := by
  unfold declaredSuperclass?
  rw [node?_rename]
  cases schema.node? key <;> rfl

@[simp] theorem ancestors_rename (key : TypeKey) :
    (schema.rename renames).ancestors key = schema.ancestors key :=
  ancestors_congr (funext kind?_rename) (funext superclassOf?_rename) size_rename key

@[simp] theorem interfaceClosure_rename (keys : List TypeKey) :
    (schema.rename renames).interfaceClosure keys = schema.interfaceClosure keys := by
  refine interfaceClosure_congr (funext interfacesOf_rename) ?_ keys
  rw [implementsCount, implementsCount, List.length_flatMap, List.length_flatMap,
    map_nodes_rename _ fun node => by simp [TypeNode.rename]]

theorem insert_rename (schema : Schema) (name : String) (kind : TypeKind) :
    (schema.insert name kind).rename renames = (schema.rename renames).insert name kind := by
  have hnew : TypeNode.rename renames.name { key := ⟨schema.size⟩, name, kind } =
      { key := ⟨schema.size⟩, name, kind } := rfl
  simp only [insert, rename, size, List.length_modify, Schema.mk.injEq]
  refine List.ext_getElem? fun place => ?_
  rw [List.getElem?_modify]
  rcases Nat.lt_or_ge place schema.nodes.length with hplace | hplace
  · rw [List.getElem?_append_left hplace, List.getElem?_append_left (by simpa using hplace),
      List.getElem?_modify]
  · rw [List.getElem?_append_right hplace, List.getElem?_append_right (by simpa using hplace),
      List.length_modify, List.getElem?_singleton]
    by_cases hlast : place - schema.nodes.length = 0
    · rw [if_pos hlast]
      by_cases hrenamed : renames.key.index = place <;> simp [hrenamed, TypeNode.rename,
        TypeBody.rename]
    · rw [if_neg hlast]
      rfl

theorem fill_rename (schema : Schema) (key : TypeKey) (body : TypeBody) :
    (schema.fill key body).rename renames =
      (schema.rename renames).fill key (body.rename (renames.within key)) := by
  simp only [fill, rename, Schema.mk.injEq]
  by_cases h : key = renames.key
  · simp only [h, Renaming.within, if_true, List.modify_modify_eq]
    rfl
  · have hindex : key.index ≠ renames.key.index := fun hindex => h (by
      cases key
      cases hkey : renames.key
      simp_all)
    rw [Renaming.within, if_neg h, TypeBody.rename_id, List.modify_modify_ne _ _ _ hindex]

end Schema

end ObjectDocument
