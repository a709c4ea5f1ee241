import ObjectDocument.Consult
import ObjectDocument.Lineage

/-!
# Drafts of entity models

A draft starts with the lineage of a type and the models of its superclass and interfaces.
Conventions then fill it in, and at last it is made a model.  What a convention did before it failed
stays done, so a step on a draft keeps the draft beside its outcome.
-/

namespace ObjectDocument

structure Context where
  schema : Schema
  settings : Settings

/-- An entity model in the making. -/
structure ModelDraft where
  name : String
  isInterface : Bool
  lineage : Lineage
  superclass : Option EntityModel
  interfaceModels : List EntityModel
  properties : List PropertyDraft := []
  discriminatorEnabled : Bool := false
  discriminatorKey : Option String := none
  discriminator : Option String := none
  idProperty : Option String := none
  versionProperty : Option String := none

abbrev DraftM := ExceptT MappingError (StateT ModelDraft Consult)

namespace DraftM

def request (key : TypeKey) : DraftM (Option EntityModel) :=
  ExceptT.mk (StateT.lift (Consult.request key))

def tellAll (records : List LogRecord) : DraftM Unit :=
  ExceptT.lift (StateT.lift (Consult.tellAll records))

end DraftM

namespace ModelDraft

def typeKey (draft : ModelDraft) : TypeKey :=
  draft.lineage.typeKey

def metadata (draft : ModelDraft) : Metadata :=
  draft.lineage.metadata

/-- The draft of the model of a type, for which the models of its superclass and of its interfaces
are asked for first. -/
def start (context : Context) (key : TypeKey) : ConsultM ModelDraft := do
  let node ← ConsultM.ofExcept (context.schema.node key)
  unless context.schema.isMappable key do
    throw (.invalidModel node.name .notMappable)
  let lineage := Lineage.ofNode context.schema node
  let superclass ← match lineage.classes with
    | parent :: _ => ConsultM.request parent
    | [] => pure none
  let interfaceModels ← lineage.interfaces.mapM ConsultM.request
  return {
    name := node.name, isInterface := node.isInterface, lineage, superclass
    interfaceModels := interfaceModels.filterMap id }

def property? (draft : ModelDraft) (name : String) : Option PropertyDraft :=
  draft.properties.find? (·.name = some name)

def propertyPlace? (draft : ModelDraft) (name : String) : Option Nat :=
  draft.properties.findIdx? (·.name = some name)

def updateProperty (draft : ModelDraft) (place : Nat) (update : PropertyDraft → PropertyDraft) :
    ModelDraft :=
  { draft with properties := draft.properties.modify place update }

def missingProperty (draft : ModelDraft) (name : String) : MappingError :=
  .notFound ("property " ++ name ++ " on " ++ draft.name)

def addProperties (draft : ModelDraft) (properties : List PropertyDraft) : ModelDraft :=
  { draft with properties := draft.properties ++ properties }

def retain (draft : ModelDraft) (keep : PropertyDraft → Bool) : ModelDraft :=
  { draft with properties := draft.properties.filter keep }

def firstNameWith (draft : ModelDraft) (kind : MarkerKind) : Option String :=
  (draft.properties.find? (·.metadata.has kind)).bind (·.name)

/-- The collection that the metadata name, or else the one that the naming makes of the type's
name. -/
def collectionName (draft : ModelDraft) (settings : Settings) : String :=
  match (draft.metadata.entity?.bind (·.collection)).filter (· ≠ "") with
  | some collection => collection
  | none => settings.collectionNaming.apply draft.name

def refuse {α : Type} (draft : ModelDraft) (fault : ModelFault) : ConsultM α := do
  ConsultM.tell ⟨.error, "cannot build entity model for " ++ draft.name ++ ": " ++ fault.text⟩
  throw (.invalidModel draft.name fault)

def isBlank (text : Option String) : Bool :=
  text.getD "" = ""

def discriminatorFault? (draft : ModelDraft) : Option ModelFault :=
  if draft.discriminatorEnabled then
    if isBlank draft.discriminatorKey then some .noDiscriminatorKey
    else if isBlank draft.discriminator then some .noDiscriminator
    else none
  else none

/-- The final properties of an entity, whose names must differ from those in `names` and from each
other. -/
def finishProperties (context : Context) (owner : TypeKey) (entity : String)
    (names : List String) : List PropertyDraft → Except MappingError (List PropertyDescriptor)
  | [] => .ok []
  | draft :: rest => do
    let property ← draft.finish context.schema owner entity
    if property.name ∈ names then
      throw (.invalidModel entity (.repeatedProperty property.name))
    let others ← finishProperties context owner entity (property.name :: names) rest
    return property :: others

def place? (properties : List PropertyDescriptor) (name : Option String) : Option Nat :=
  name.bind fun name => properties.findIdx? (·.name = name)

def finish (draft : ModelDraft) (context : Context) : ConsultM EntityModel := do
  if let some fault := draft.discriminatorFault? then
    draft.refuse fault
  let collection := draft.collectionName context.settings
  if collection = "" then
    draft.refuse .emptyCollection
  let properties ← ConsultM.ofExcept
    (finishProperties context draft.typeKey draft.name [] draft.properties)
  return {
    typeKey := draft.typeKey
    name := draft.name
    isInterface := draft.isInterface
    metadata := draft.metadata
    properties, collection
    superclass := draft.superclass.map EntityModel.link
    interfaces := draft.interfaceModels.map EntityModel.link
    idIndex := place? properties draft.idProperty
    versionIndex := place? properties draft.versionProperty
    discriminatorEnabled := draft.discriminatorEnabled
    discriminatorKey := draft.discriminatorKey
    discriminator := draft.discriminator }

end ModelDraft

end ObjectDocument
