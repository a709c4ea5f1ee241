import ObjectDocument.Convention.Defaults
import ObjectDocument.Convention.Fields
import ObjectDocument.Convention.Methods
import ObjectDocument.Validation.Catalog

/-!
# Options

The settings of a mapper together with the conventions that make its models and the rules that check
them.
-/

namespace ObjectDocument

structure MapperOptions extends Settings where
  conventions : List Convention
  validator : Validator

def Convention.standard : PropertyDiscovery → List Convention
  | .fields => [fieldDiscovery, entityDefaults]
  | .methods => [methodDiscovery, entityDefaults]

def Convention.ofName? (name : String) : Option Convention :=
  [fieldDiscovery, methodDiscovery, entityDefaults].find? (·.name = name)

/-- The options with some settings.  Conventions and rules that are not given are the standard
ones. -/
def MapperOptions.ofSettings (settings : Settings) (conventions : Option (List Convention) := none)
    (validator : Option Validator := none) : MapperOptions :=
  { settings with
    conventions := conventions.getD (Convention.standard settings.propertyDiscovery)
    validator := validator.getD .standard }

end ObjectDocument
