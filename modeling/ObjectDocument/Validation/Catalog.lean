import ObjectDocument.Validation.Rule

/-!
# The catalog of rules

The rules that a model is checked by unless others are given.
-/

namespace ObjectDocument

namespace Rule

def ofModel (check : Context → EntityModel → List Violation) : Rule :=
  .entity fun context model => pure (check context model)

def ofProperty
    (check : Context → EntityModel → PropertyDescriptor → Option Violation) : Rule :=
  .property fun context model property => pure (check context model property).toList

def constructorParameterNames : Rule :=
  ofModel fun context model =>
    let params := ((context.schema.node? model.typeKey).bind (·.constructorParams)).getD []
    (params.filter fun param => (model.property? param).isNone).map fun param =>
      .ofModel model .fatal "ConstructorParameterNames"
        ("constructor parameter " ++ param ++ " does not match any mapped property")

def atMostOne (kind : MarkerKind) (rule : String) : Rule :=
  ofModel fun _ model =>
    let found := model.propertiesWith kind
    if 1 < found.length then
      [.ofModel model .fatal rule ("more than one property is marked " ++ kind.text ++ ": " ++
        ", ".intercalate (found.map (·.name)))]
    else []

def multipleId : Rule := atMostOne .id "MultipleId"

def multipleVersions : Rule := atMostOne .version "MultipleVersions"

def missingIdentity : Rule :=
  ofModel fun _ model =>
    if model.metadata.has .entity ∧ ¬model.isInterface ∧ model.idProperty?.isNone then
      [.ofModel model .warning "MissingIdentity" "entity has no identity property"]
    else []

def contradicting (first second : MarkerKind) : Rule :=
  ofProperty fun _ model property =>
    if property.metadata.has first ∧ property.metadata.has second then
      some (.ofProperty model property .fatal "ContradictingMetadata"
        ("a property cannot be both " ++ first.text ++ " and " ++ second.text))
    else none

def lazyReferenceOnArray : Rule :=
  ofProperty fun _ model property =>
    if (property.metadata.reference?.any (·.lazy)) ∧ property.isArray then
      some (.ofProperty model property .fatal "LazyReferenceOnArray"
        "lazy references are not supported on arrays, use a list instead")
    else none

def declaresId (node : TypeNode) : Bool :=
  node.fields.any (·.metadata.has .id) || node.methods.any (·.metadata.has .id)

/-- Whether a type or an ancestor of it declares an identity, in a number of steps. -/
def inheritsId (schema : Schema) : Nat → TypeKey → Bool
  | 0, _ => false
  | steps + 1, key =>
    match schema.node? key with
    | none => false
    | some node =>
      declaresId node ||
        match node.superclassKey?.filter (· ≠ .object) with
        | some parent => inheritsId schema steps parent
        | none => false

/-- Whether entities of a type can be referred to, as far as the declarations tell. -/
def identifiableInSchema (schema : Schema) (target : TypeKey) : Bool :=
  schema.kind? target = some .interfaceType || inheritsId schema schema.size target

/-- What is wrong with a reference to a type, given what the request for its model was answered.  A
model that is still in the making is judged by its declarations. -/
def referenceFault? (schema : Schema) (target : TypeKey) (answer : ModelAnswer) : Option String :=
  let name := schema.name target
  let unidentified := "the referenced type " ++ name ++ " has no identity property"
  match answer with
  | .ok (some model) => if model.isIdentifiable then none else some unidentified
  | .ok none => some (name ++ " is not a mappable type")
  | .error (.cyclicMapping _) =>
    if identifiableInSchema schema target then none else some unidentified
  | .error cause => some ("the model of " ++ name ++ " cannot be built: " ++ cause.text)

def referenceToUnidentifiable : Rule :=
  .property fun context model property => do
    if property.metadata.has .reference then
      let target := property.normalizedType
      let answer ←
        if target = model.typeKey then pure (.ok (some model)) else Consult.request target
      return ((referenceFault? context.schema target answer).map
        (.ofProperty model property .fatal "ReferenceToUnidentifiable")).toList
    else return []

def versionType : Rule :=
  ofProperty fun context model property =>
    let type := context.schema.boxed property.typeKey
    if property.metadata.has .version ∧ type ≠ .int32 ∧ type ≠ .int64 then
      some (.ofProperty model property .fatal "VersionType"
        ("version properties must be Int32 or Int64, found " ++ context.schema.name type))
    else none

def ofName? (name : String) : Option Rule :=
  [("ConstructorParameterNames", constructorParameterNames), ("MultipleId", multipleId),
    ("MultipleVersions", multipleVersions), ("MissingIdentity", missingIdentity),
    ("LazyReferenceOnArray", lazyReferenceOnArray),
    ("ReferenceToUnidentifiable", referenceToUnidentifiable),
    ("VersionType", versionType)].lookup name

def catalog : List Rule :=
  [constructorParameterNames, multipleId, multipleVersions, missingIdentity,
    contradicting .reference .property, contradicting .reference .embedded,
    contradicting .id .transient, lazyReferenceOnArray, referenceToUnidentifiable, versionType]

end Rule

def Validator.standard : Validator :=
  ⟨Rule.catalog⟩

end ObjectDocument
