import ObjectDocument.Journal
import ObjectDocument.Schema.Check
import ObjectDocument.Schema.Resolve

/-!
# From declarations to a schema

All names are declared before any is looked up, so that declarations may refer to each other in any
order.  Then the members of each type are looked up in turn, and at last every type is checked.
-/

namespace ObjectDocument

namespace Schema

def declare (schema : Schema) (declaration : TypeDeclaration) : Except MappingError Schema :=
  if (schema.lookup? declaration.name).isSome then
    .error (.invalidSchema (.builtin declaration.name))
  else
    .ok (schema.insert declaration.name declaration.kind.typeKind)

def resolveMembers (schema : Schema) (declaration : TypeDeclaration) (key : TypeKey) :
    Except MappingError Schema := do
  let (body, schema) ← (resolveBody declaration).run schema
  return schema.fill key body

def declaredKey (place : Nat) : TypeKey :=
  ⟨builtins.size + place⟩

def ofTypes (types : List TypeDeclaration) : Except MappingError Schema := do
  let named ← types.foldlM declare builtins
  let schema ← types.zipIdx.foldlM
    (fun schema (declaration, place) => schema.resolveMembers declaration (declaredKey place)) named
  (schema.nodes.drop builtins.size).take types.length |>.forM schema.check
  return schema

def sizeRecord (size : Nat) : LogRecord :=
  ⟨.debug, "built type arena with " ++ toString size ++ " types"⟩

def records (schema : Schema) : List LogRecord :=
  (schema.nodes.filter (·.kind = .undeclared)).map (fun node =>
    ⟨.debug, "registering opaque type " ++ node.name⟩) ++ [sizeRecord schema.size]

end Schema

def Declarations.build (declarations : Declarations) : Except MappingError Schema :=
  match declarations.repeated with
  | name :: _ => .error (.invalidSchema (.duplicate name))
  | [] => Schema.ofTypes declarations.types

end ObjectDocument
