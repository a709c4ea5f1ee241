import ObjectDocument.Property

/-!
# Entity models

What is known of a mappable type once its properties are found, named and checked.  A model is
linked to the models of its superclass and its interfaces.  A link names a model by key and by the
serial number of its making, because a model that was made again is another model: a link leads to a
model only as long as that very model is kept.
-/

namespace ObjectDocument

structure ModelLink where
  key : TypeKey
  /-- The number of the making of the model. -/
  serial : Nat
deriving DecidableEq, Repr

structure EntityModel where
  /-- The number of the making of the model. -/
  serial : Nat := 0
  typeKey : TypeKey
  name : String
  isInterface : Bool
  /-- The metadata of the type, completed by its ancestors and interfaces. -/
  metadata : Metadata
  properties : List PropertyDescriptor
  superclass : Option ModelLink
  interfaces : List ModelLink
  /-- The place of the identity among the properties. -/
  idIndex : Option Nat
  /-- The place of the version among the properties. -/
  versionIndex : Option Nat
  discriminatorEnabled : Bool
  discriminatorKey : Option String
  discriminator : Option String
  collection : String
deriving DecidableEq, Repr

namespace EntityModel

def link (model : EntityModel) : ModelLink :=
  ⟨model.typeKey, model.serial⟩

def property? (model : EntityModel) (name : String) : Option PropertyDescriptor :=
  model.properties.find? (·.name = name)

def propertyByMappedName? (model : EntityModel) (mappedName : String) :
    Option PropertyDescriptor :=
  model.properties.find? (·.mappedName = mappedName)

def propertiesWith (model : EntityModel) (kind : MarkerKind) : List PropertyDescriptor :=
  model.properties.filter (·.metadata.has kind)

def idProperty? (model : EntityModel) : Option PropertyDescriptor :=
  model.idIndex.bind (model.properties[·]?)

def versionProperty? (model : EntityModel) : Option PropertyDescriptor :=
  model.versionIndex.bind (model.properties[·]?)

/-- Whether other entities can refer to entities of the model. -/
def isIdentifiable (model : EntityModel) : Bool :=
  model.idProperty?.isSome || model.isInterface

end EntityModel

end ObjectDocument
