import ObjectDocument.Bson.Json
import ObjectDocument.Codec
import ObjectDocument.Mapper
import ObjectDocument.Path

/-!
# Entities

What a mapper does with instances of mapped types: it reads and writes properties, and turns
instances into documents and back.  The models are made when they are first needed, and accessors
that fail are told of.
-/

namespace ObjectDocument

namespace Mapper

def tellAll (records : List LogRecord) : StateM MapperState Unit :=
  modify fun state => records.foldl (fun state record => state.write record) state

def told {α : Type} (outcome : Except MappingError α) : MapperM α := do
  if let .error cause := outcome then
    tellAll cause.records
  ExceptT.mk (pure outcome)

variable [ValueTypes]

def readProperty (property : PropertyDescriptor) (object : Instance) : MapperM Bson :=
  told (property.read object)

def writeProperty (property : PropertyDescriptor) (object : Instance) (value : Bson) :
    StateM MapperState (Instance × Except MappingError Unit) := do
  let (object, outcome) := property.write object value
  let outcome ← (told outcome).run
  return (object, outcome)

def encode (mapper : Mapper) (model : EntityModel) (object : Instance) : MapperM Document :=
  told (model.encode mapper.options.toSettings object)

/-- Writes a document into an instance of a model.  What was written before an error stays. -/
def decodeInto (model : EntityModel) (document : Document) (object : Instance) :
    StateM MapperState (Instance × Except MappingError Unit) := do
  tellAll (model.decodeRecords document)
  let (object, outcome) := model.decodeInto document object
  let outcome ← (told outcome).run
  return (object, outcome)

def toDocument (mapper : Mapper) (type : String) (object : Instance) : MapperM Document := do
  let model ← mapper.entityModelOf type
  mapper.encode model object

def toJson (mapper : Mapper) (type : String) (object : Instance) : MapperM JsonValue := do
  let document ← mapper.toDocument type object
  return (Bson.document document).toJson

/-- An instance of the type that a name means, made of a document and of what an instance is at
first. -/
def fromDocument (mapper : Mapper) (type : String) (initial : Instance) (document : Document) :
    MapperM Instance := do
  let model ← mapper.entityModelOf type
  let (object, outcome) ← decodeInto model document initial
  match outcome with
  | .ok () => return object
  | .error cause => throw cause

end Mapper

end ObjectDocument
