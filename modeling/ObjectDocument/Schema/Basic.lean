import ObjectDocument.Accessor
import ObjectDocument.Schema.Node

/-!
# Schemas

A schema is a list of types, and the key of a type is its place in the list.  The built-in types
come first.  A name means the last type that bears it, and the array type of a component is the type
of that kind.
-/

namespace ObjectDocument

/-- The types of a schema, in the order of their keys. -/
structure Schema where
  nodes : List TypeNode
deriving DecidableEq, Repr

namespace Schema

def size (schema : Schema) : Nat :=
  schema.nodes.length

def node? (schema : Schema) (key : TypeKey) : Option TypeNode :=
  schema.nodes[key.index]?

/-- The type at a key, which must be a key of the schema. -/
def node (schema : Schema) (key : TypeKey) : Except MappingError TypeNode :=
  match schema.node? key with
  | some node => .ok node
  | none => .error (.notFound ("type " ++ key.text))

def lookup? (schema : Schema) (name : String) : Option TypeKey :=
  (schema.nodes.reverse.find? (·.name = name)).map (·.key)

/-- The name of a type, or a question mark for a key of another schema. -/
def name (schema : Schema) (key : TypeKey) : String :=
  ((schema.node? key).map (·.name)).getD "?"

def kind? (schema : Schema) (key : TypeKey) : Option TypeKind :=
  (schema.node? key).map (·.kind)

/-- The scalar of a primitive, and any other type itself. -/
def boxed (schema : Schema) (key : TypeKey) : TypeKey :=
  match schema.kind? key with
  | some (.primitive boxed) => boxed
  | _ => key

def arrayOf? (schema : Schema) (component : TypeKey) : Option TypeKey :=
  (schema.nodes.find? (·.kind = .array component)).map (·.key)

def componentOf? (schema : Schema) (key : TypeKey) : Option TypeKey :=
  match schema.kind? key with
  | some (.array component) => some component
  | _ => none

def isArray (schema : Schema) (key : TypeKey) : Bool :=
  (schema.componentOf? key).isSome

def isMappable (schema : Schema) (key : TypeKey) : Bool :=
  key ≠ .object &&
    (schema.kind? key = some .classType || schema.kind? key = some .interfaceType)

def elementKind (schema : Schema) (key : TypeKey) : ElementKind :=
  let boxed := schema.boxed key
  if boxed = .boolean then .boolean
  else if boxed = .byte ∨ boxed = .int16 ∨ boxed = .int32 then .int32
  else if boxed = .int64 then .int64
  else if boxed = .float ∨ boxed = .double then .double
  else if boxed = .string ∨ boxed = .char then .string
  else .any

/-- The key of a declared type without its arguments.  A type variable stands for its bound, and
without one for the root of every class.  A bound is never a bare variable. -/
def eraseIn (scope : List TypeParam) : GenericType → TypeKey
  | .applied base _ => base
  | .array _ erased => erased
  | .var name =>
    match (scope.find? (·.name = name)).bind (·.bound) with
    | some (.applied base _) => base
    | some (.array _ erased) => erased
    | _ => .object

def paramsOf (schema : Schema) (key : TypeKey) : List TypeParam :=
  ((schema.node? key).map (·.params)).getD []

/-- The key of a type as declared on `owner`, without its arguments. -/
def erasure (schema : Schema) (owner : TypeKey) (declared : GenericType) : TypeKey :=
  eraseIn (schema.paramsOf owner) declared

def insert (schema : Schema) (name : String) (kind : TypeKind) : Schema :=
  ⟨schema.nodes ++ [{ key := ⟨schema.size⟩, name, kind }]⟩

def fill (schema : Schema) (key : TypeKey) (body : TypeBody) : Schema :=
  ⟨schema.nodes.modify key.index fun node => { node with toTypeBody := body }⟩

/-! ### Built-in types -/

def boxedNames : List String :=
  ["Boolean", "Byte", "Int16", "Int32", "Int64", "Float", "Double", "Char"]

def primitiveNames : List String :=
  ["bool", "u8", "i16", "i32", "i64", "f32", "f64", "char"]

def scalarNames : List String :=
  ["String", "ObjectId", "Uuid", "DateTime", "Document"]

def containers : List (String × List String) :=
  [("List", ["E"]), ("Set", ["E"]), ("Map", ["K", "V"])]

/-- The built-in types with their kinds and type parameters, in the order of their keys. -/
def builtinTypes : List (String × TypeKind × List String) :=
  ("Object", .classType, []) ::
    boxedNames.map (fun name => (name, .scalar, [])) ++
    primitiveNames.zipIdx.map
      (fun (name, i) => (name, .primitive ⟨TypeKey.boolean.index + i⟩, [])) ++
    scalarNames.map (fun name => (name, .scalar, [])) ++
    containers.map (fun (name, params) => (name, .container, params))

def builtins : Schema :=
  ⟨builtinTypes.zipIdx.map fun ((name, kind, params), i) =>
    { key := ⟨i⟩, name, kind, params := params.map fun param => { name := param } }⟩

end Schema

end ObjectDocument
