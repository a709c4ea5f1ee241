import ObjectDocument.GenericType
import ObjectDocument.Metadata

/-!
# Types of a schema

A type of a schema has a name, a kind, and the members that were declared on it.  Members refer to
other types by key, and to type parameters of their own type by name.
-/

namespace ObjectDocument

inductive TypeKind where
  | classType
  | interfaceType
  | enumType
  /-- A primitive, with the scalar that stands for it inside of generic types. -/
  | primitive (boxed : TypeKey)
  /-- A built-in type whose values are single document values. -/
  | scalar
  | container
  | array (component : TypeKey)
  /-- A name that declarations refer to and none declares. -/
  | undeclared
deriving DecidableEq, Repr

/-- A type parameter, with the bound that it erases to, if it has one. -/
structure TypeParam where
  name : String
  bound : Option GenericType := none
deriving DecidableEq, Repr

structure DeclaredField where
  name : String
  declared : GenericType
  metadata : Metadata
deriving DecidableEq, Repr

inductive MethodShape where
  /-- Without an argument, for a value. -/
  | getter
  /-- With exactly one argument. -/
  | setter
  | other
deriving DecidableEq, Repr

def MethodShape.text : MethodShape → String
  | .getter => "Getter"
  | .setter => "Setter"
  | .other => "Other"

structure DeclaredMethod where
  name : String
  shape : MethodShape
  /-- What a getter returns or a setter takes. -/
  declared : Option GenericType
  metadata : Metadata
deriving DecidableEq, Repr

structure TypeBody where
  params : List TypeParam := []
  superclass : Option GenericType := none
  interfaces : List GenericType := []
  metadata : Metadata := {}
  fields : List DeclaredField := []
  methods : List DeclaredMethod := []
  /-- The parameter names of the full constructor, if there is one. -/
  constructorParams : Option (List String) := none
deriving DecidableEq, Repr

structure TypeNode extends TypeBody where
  key : TypeKey
  name : String
  kind : TypeKind
deriving DecidableEq, Repr

namespace TypeBody

def superclassKey? (body : TypeBody) : Option TypeKey :=
  body.superclass.bind GenericType.base?

def interfaceKeys (body : TypeBody) : List TypeKey :=
  body.interfaces.filterMap GenericType.base?

end TypeBody

def TypeNode.isInterface (node : TypeNode) : Bool :=
  node.kind = .interfaceType

end ObjectDocument
