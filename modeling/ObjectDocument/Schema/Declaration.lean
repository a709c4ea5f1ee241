import ObjectDocument.Schema.Node

/-!
# Declarations

Types are declared by name, and refer to each other by the text of type expressions.  A name is
declared once: a second declaration of it is not taken, and is remembered as a fault.
-/

namespace ObjectDocument

inductive DeclarationKind where
  | classType
  | interfaceType
  | enumType
deriving DecidableEq, Repr, Inhabited

def DeclarationKind.text : DeclarationKind → String
  | .classType => "Class"
  | .interfaceType => "Interface"
  | .enumType => "Enum"

def DeclarationKind.typeKind : DeclarationKind → TypeKind
  | .classType => .classType
  | .interfaceType => .interfaceType
  | .enumType => .enumType

structure FieldDeclaration where
  name : String
  type : String
  metadata : Metadata := {}
deriving DecidableEq, Repr

structure MethodDeclaration where
  name : String
  shape : MethodShape
  type : Option String
  metadata : Metadata := {}
deriving DecidableEq, Repr

structure TypeDeclaration where
  name : String
  kind : DeclarationKind := .classType
  /-- Type parameters with their bounds. -/
  params : List (String × Option String) := []
  superclass : Option String := none
  interfaces : List String := []
  metadata : Metadata := {}
  fields : List FieldDeclaration := []
  methods : List MethodDeclaration := []
  constructorParams : Option (List String) := none
deriving DecidableEq, Repr

structure Declarations where
  /-- The declarations taken, in order. -/
  types : List TypeDeclaration := []
  /-- The names that were declared again, in order. -/
  repeated : List String := []
deriving DecidableEq, Repr

namespace Declarations

def contains (declarations : Declarations) (name : String) : Bool :=
  declarations.types.any (·.name = name)

def define (declarations : Declarations) (declaration : TypeDeclaration) : Declarations :=
  if declarations.contains declaration.name then
    { declarations with repeated := declarations.repeated ++ [declaration.name] }
  else
    { declarations with types := declarations.types ++ [declaration] }

def register (declarations : Declarations) (declaration : TypeDeclaration) : Declarations :=
  if declarations.contains declaration.name then declarations
  else declarations.define declaration

def size (declarations : Declarations) : Nat :=
  declarations.types.length

def ofList (types : List TypeDeclaration) : Declarations :=
  types.foldl define {}

end Declarations

end ObjectDocument
