import ObjectDocument.Config

/-!
# Settings

What a mapper is told from outside: how names are made, what documents carry beside the properties,
and what is left out of them.
-/

namespace ObjectDocument

structure Settings where
  /-- From the name of a property to the name that it is stored under. -/
  fieldNaming : NamingStrategy := .identity
  /-- From the name of a type to the name of its collection. -/
  collectionNaming : NamingStrategy := .identity
  /-- From the name of a type to the value of its discriminator. -/
  discriminatorNaming : NamingStrategy := .identity
  discriminatorKey : String := defaultDiscriminatorKey
  /-- Where the default conventions find properties. -/
  propertyDiscovery : PropertyDiscovery := .fields
  /-- Whether values that are null are stored. -/
  storeNulls : Bool := false
  /-- Whether empty arrays and documents are stored. -/
  storeEmpties : Bool := false

def MapperConfig.settings (config : MapperConfig) : Settings where
  fieldNaming := .standard config.fieldNaming
  collectionNaming := .standard config.collectionNaming
  discriminatorNaming := .standard config.discriminatorNaming
  discriminatorKey := config.discriminatorKey
  propertyDiscovery := config.propertyDiscovery
  storeNulls := config.storeNulls
  storeEmpties := config.storeEmpties

end ObjectDocument
