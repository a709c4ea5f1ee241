import ObjectDocument.Error
import ObjectDocument.Schema.Basic
import ObjectDocument.Schema.Declaration

/-!
# Looking names up

Looking up the names of a type expression may add types to the schema: a name that nothing declares
becomes an undeclared type, and an array becomes a type of its own.  A name that is a type parameter
in scope is that parameter before it is anything else.
-/

namespace ObjectDocument

abbrev SchemaM := StateT Schema (Except MappingError)

namespace Schema

/-- The key that a name means, which becomes an undeclared type if it means nothing yet. -/
def internName (name : String) : SchemaM TypeKey := do
  let schema ← get
  match schema.lookup? name with
  | some key => return key
  | none =>
    set (schema.insert name .undeclared)
    return ⟨schema.size⟩

/-- The array type of a component, which is added if the schema does not have it. -/
def internArray (component : TypeKey) : SchemaM TypeKey := do
  let schema ← get
  match schema.arrayOf? component with
  | some key => return key
  | none =>
    set (schema.insert ("[" ++ schema.name component ++ "]") (.array component))
    return ⟨schema.size⟩

section

variable {before after : Schema} {key component : TypeKey} {name : String}

theorem run_internName_eq_ok_iff : (internName name).run before = .ok (key, after) ↔
    before.lookup? name = some key ∧ after = before ∨
      before.lookup? name = none ∧ key = ⟨before.size⟩ ∧
        after = before.insert name .undeclared := by
  simp only [internName, StateT.run_bind, StateT.run_get, pure_bind]
  cases before.lookup? name with
  | some found =>
      change Except.ok (found, before) = .ok (key, after) ↔ _
      simp [eq_comm]
  | none =>
      change Except.ok (_, before.insert name .undeclared) = .ok (key, after) ↔ _
      simp [eq_comm]

theorem run_internArray_eq_ok_iff : (internArray component).run before = .ok (key, after) ↔
    before.arrayOf? component = some key ∧ after = before ∨
      before.arrayOf? component = none ∧ key = ⟨before.size⟩ ∧
        after = before.insert ("[" ++ before.name component ++ "]") (.array component) := by
  simp only [internArray, StateT.run_bind, StateT.run_get, pure_bind]
  cases before.arrayOf? component with
  | some found =>
      change Except.ok (found, before) = .ok (key, after) ↔ _
      simp [eq_comm]
  | none =>
      change Except.ok (_, before.insert _ (.array component)) = .ok (key, after) ↔ _
      simp [eq_comm]

end

mutual
def resolve (scope : List TypeParam) : TypeExpr → SchemaM GenericType
  | .named name args =>
    if scope.any (·.name = name) then
      if args.isEmpty then return .var name
      else throw (.invalidSchema (.variableArguments name))
    else do
      let base ← internName name
      let args ← resolveList scope args
      return .applied base args
  | .array component => do
    let component ← resolve scope component
    let erased ← internArray (eraseIn scope component)
    return .array component erased

def resolveList (scope : List TypeParam) : List TypeExpr → SchemaM (List GenericType)
  | [] => return []
  | expr :: rest => do
    let declared ← resolve scope expr
    let others ← resolveList scope rest
    return declared :: others
end

def resolveText (scope : List TypeParam) (source : String) : SchemaM GenericType := do
  resolve scope (← TypeExpr.parse source)

/-- Looks up the bounds of type parameters, in order.  The scope of a bound is every parameter of
the type, of which those before it, in `done`, have their bounds already. -/
def resolveBounds (type : String) (done : List TypeParam) :
    List (String × Option String) → SchemaM (List TypeParam)
  | [] => return done
  | (name, bound) :: rest => do
    let scope := done ++ { name } :: rest.map fun param => { name := param.1 }
    let bound ← bound.mapM (resolveText scope)
    if bound.any (·.isVariable) then throw (.invalidSchema (.variableBound name type))
    resolveBounds type (done ++ [{ name, bound }]) rest

def resolveField (scope : List TypeParam) (field : FieldDeclaration) : SchemaM DeclaredField := do
  let declared ← resolveText scope field.type
  return { name := field.name, declared, metadata := field.metadata }

def resolveMethod (scope : List TypeParam) (method : MethodDeclaration) :
    SchemaM DeclaredMethod := do
  let declared ← method.type.mapM (resolveText scope)
  return { name := method.name, shape := method.shape, declared, metadata := method.metadata }

def resolveBody (declaration : TypeDeclaration) : SchemaM TypeBody := do
  let params ← resolveBounds declaration.name [] declaration.params
  let superclass ← declaration.superclass.mapM (resolveText params)
  let interfaces ← declaration.interfaces.mapM (resolveText params)
  let fields ← declaration.fields.mapM (resolveField params)
  let methods ← declaration.methods.mapM (resolveMethod params)
  return {
    params, superclass, interfaces, fields, methods
    metadata := declaration.metadata
    constructorParams := declaration.constructorParams }

end Schema

end ObjectDocument
