import ObjectDocument.Descriptor
import ObjectDocument.Error
import ObjectDocument.Journal
import ObjectDocument.Settings

/-!
# Properties

A property is drafted while an entity model is made, part by part, and then made final.  Its logical
name is the one that the declaration gives; its mapped name is the one that documents store it
under.
-/

namespace ObjectDocument

def idKey : String := "_id"

structure PropertyDescriptor where
  name : String
  mappedName : String
  /-- The name together with that of the entity. -/
  fullName : String
  type : TypeDescriptor
  /-- The type of the single values: of the elements of an array or a collection, and of the values
  of a map. -/
  normalizedType : TypeKey
  isArray : Bool
  metadata : Metadata
  accessor : Accessor
  /-- The type whose entity model has the property. -/
  owner : TypeKey
  /-- The type that declares the property. -/
  declaringType : TypeKey
deriving DecidableEq, Repr

namespace PropertyDescriptor

def typeKey (property : PropertyDescriptor) : TypeKey :=
  property.type.base

/-- Whether the value is a sequence of values. -/
def isMultiple (property : PropertyDescriptor) : Bool :=
  property.isArray || property.typeKey = .list || property.typeKey = .set

def isMap (property : PropertyDescriptor) : Bool :=
  property.typeKey = .map

section

variable [ValueTypes]

def read (property : PropertyDescriptor) (object : Instance) : Except MappingError Bson :=
  (property.accessor.get object).mapError (.mapping property.fullName)

def write (property : PropertyDescriptor) (object : Instance) (value : Bson) :
    Instance × Except MappingError Unit :=
  let (written, outcome) := property.accessor.set object value
  (written, outcome.mapError (.mapping property.fullName))

end

end PropertyDescriptor

def MappingError.records : MappingError → List LogRecord
  | .mapping property cause => [⟨.error, "accessor of " ++ property ++ " failed: " ++ cause.text⟩]
  | _ => []

/-- The type of the single values of a type. -/
def TypeDescriptor.normalized (type : TypeDescriptor) (schema : Schema) : TypeKey :=
  match schema.componentOf? type.base with
  | some component => schema.boxed component
  | none =>
    if type.base = .list ∨ type.base = .set then type.paramBase 0
    else if type.base = .map then type.paramBase 1
    else type.base

structure PropertyDraft where
  name : Option String := none
  mappedName : Option String := none
  type : Option TypeDescriptor := none
  metadata : Metadata := {}
  accessor : Option Accessor := none
  declaringType : Option TypeKey := none
deriving DecidableEq, Repr

namespace PropertyDraft

/-- The name that the metadata give.  Where several markers give one, the order of the kinds
decides, and of one kind the first marker is the only one asked. -/
def explicitName? (metadata : Metadata) : Option String :=
  ([.property, .reference, .version].filterMap metadata.get?).findSome? Marker.explicitName

def mappedNameOf (settings : Settings) (name : String) (metadata : Metadata) : String :=
  if metadata.has .id then idKey
  else (explicitName? metadata).getD (settings.fieldNaming.apply name)

def discoverMappedName (draft : PropertyDraft) (settings : Settings) : Except MappingError String :=
  match draft.name with
  | some name => .ok (mappedNameOf settings name draft.metadata)
  | none => .error (.invalidModel "<property>" .unnamedProperty)

def require {α : Type} (draft : PropertyDraft) (entity : String) (part : PropertyPart) :
    Option α → Except MappingError α
  | some a => .ok a
  | none => .error (.invalidModel entity (.incomplete draft.name part))

def finish (draft : PropertyDraft) (schema : Schema) (owner : TypeKey) (entity : String) :
    Except MappingError PropertyDescriptor := do
  let name ← draft.require entity .name draft.name
  let mappedName ← draft.require entity .mappedName draft.mappedName
  let type ← draft.require entity .type draft.type
  let accessor ← draft.require entity .accessor draft.accessor
  if mappedName = "" then
    throw (.invalidModel entity (.incomplete draft.name .nonemptyMappedName))
  return {
    name, mappedName, type, accessor, owner
    fullName := entity ++ "." ++ name
    normalizedType := type.normalized schema
    isArray := schema.isArray type.base
    metadata := draft.metadata
    declaringType := draft.declaringType.getD owner }

end PropertyDraft

end ObjectDocument
