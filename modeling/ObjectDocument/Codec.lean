import ObjectDocument.Model

/-!
# The codec

Entities are written into documents property by property, under the mapped names and in the order of
the model, after the discriminator.  A value that is missing or empty is left out unless the
settings keep it.  Reading goes through the same properties: those that the document has are written
into an instance, and the others stay as they are.
-/

namespace ObjectDocument

def incrementOperator : String := "$inc"

namespace EntityModel

def discriminatorEntry? (model : EntityModel) : Option (String × String) :=
  if model.discriminatorEnabled then
    match model.discriminatorKey, model.discriminator with
    | some key, some value => some (key, value)
    | _, _ => none
  else none

def stores (settings : Settings) : Bson → Bool
  | .null | .undefined => settings.storeNulls
  | .array items => !items.isEmpty || settings.storeEmpties
  | .document entries => !entries.isEmpty || settings.storeEmpties
  | _ => true

section

variable [ValueTypes]

def encodeProperties (settings : Settings) (object : Instance) :
    List PropertyDescriptor → Document → Except MappingError Document
  | [], document => .ok document
  | property :: rest, document => do
    let value ← property.read object
    encodeProperties settings object rest
      (if stores settings value then document.insert property.mappedName value else document)

def encode (model : EntityModel) (settings : Settings) (object : Instance) :
    Except MappingError Document :=
  let start : Document :=
    match model.discriminatorEntry? with
    | some (key, value) => [(key, .string value)]
    | none => []
  encodeProperties settings object model.properties start

/-- Writes the values of a document into an instance, up to the first that is not taken.  What was
written before stays. -/
def decodeProperties (document : Document) :
    List PropertyDescriptor → Instance → Instance × Except MappingError Unit
  | [], object => (object, .ok ())
  | property :: rest, object =>
    match document.get? property.mappedName with
    | none => decodeProperties document rest object
    | some value =>
      match property.write object value with
      | (written, .ok ()) => decodeProperties document rest written
      | (written, .error cause) => (written, .error cause)

def decodeInto (model : EntityModel) (document : Document) (object : Instance) :
    Instance × Except MappingError Unit :=
  decodeProperties document model.properties object

end

/-- What there is to tell of a document before it is read: that its discriminator is another. -/
def decodeRecords (model : EntityModel) (document : Document) : List LogRecord :=
  match model.discriminatorKey, model.discriminator with
  | some key, some expected =>
    match document.get? key with
    | some (.string found) =>
      if found = expected then []
      else [⟨.debug, "decoding a " ++ found ++ " document as " ++ model.name ++ " (" ++ expected ++
        ")"⟩]
    | _ => []
  | _, _ => []

def versionStep (schema : Schema) (version : PropertyDescriptor) : Bson :=
  if schema.boxed version.typeKey = .int32 then .int32 1 else .int64 1

/-- Adds an increment of the version to an update, unless it has one.  An update of which the
operator has no document is not taken, and stays as it is. -/
def incrementVersion (model : EntityModel) (schema : Schema) (update : Document) :
    Document × Except MappingError Unit :=
  match model.versionProperty? with
  | none => (update, .ok ())
  | some version =>
    let step := versionStep schema version
    match update.get? incrementOperator with
    | some (.document increments) =>
      if (OrderedMap.get? version.mappedName increments).isSome then (update, .ok ())
      else
        (update.insert incrementOperator
          (.document (OrderedMap.insert version.mappedName step increments)), .ok ())
    | some other => (update, .error (.unexpected "document" other))
    | none => (update.insert incrementOperator (.document [(version.mappedName, step)]), .ok ())

end EntityModel

end ObjectDocument
