import ObjectDocument.Error
import ObjectDocument.Json.Reader
import ObjectDocument.Json.Value
import ObjectDocument.Naming

/-!
# Configuration

The settings of a mapper that a file can give.  The file is a JSON object of which unknown members
are passed over, or an array that gives the settings in order.  A setting that is left out has its
default; one that is given twice, or is null, is an error.
-/

namespace ObjectDocument

inductive PropertyDiscovery where
  /-- Fields of the type and its ancestors. -/
  | fields
  /-- Pairs of a getter and a setter of the type and its ancestors. -/
  | methods
deriving DecidableEq, Repr, Inhabited

namespace PropertyDiscovery

def text : PropertyDiscovery → String
  | .fields => "Fields"
  | .methods => "Methods"

def word : PropertyDiscovery → String
  | .fields => "fields"
  | .methods => "methods"

def ofWord? (word : String) : Option PropertyDiscovery :=
  [fields, methods].find? (·.word = word)

end PropertyDiscovery

def defaultDiscriminatorKey : String := "_t"

structure MapperConfig where
  fieldNaming : NamingConvention := .identity
  collectionNaming : NamingConvention := .identity
  discriminatorNaming : NamingConvention := .identity
  discriminatorKey : String := defaultDiscriminatorKey
  propertyDiscovery : PropertyDiscovery := .fields
  storeNulls : Bool := false
  storeEmpties : Bool := false
deriving DecidableEq, Repr, Inhabited

namespace JsonText

def text? : JsonText → Option String
  | .string units => String.ofList <$> decodeUnits? units
  | _ => none

def boolean? : JsonText → Option Bool
  | .boolean value => some value
  | _ => none

def word? : JsonText → Option String
  | .string units => (JsonText.string units).text?
  | .object [(units, .null)] => String.ofList <$> decodeUnits? units
  | _ => none

end JsonText

namespace MapperConfig

def settingNames : List String :=
  ["field_naming", "collection_naming", "discriminator_naming", "discriminator_key",
    "property_discovery", "store_nulls", "store_empties"]

/-- The value of a setting among named values: its default if it is not there, and none if it is
there twice or `read?` refuses it. -/
def setting? {α : Type} (values : List (String × JsonText)) (name : String)
    (read? : JsonText → Option α) (default_ : α) : Option α :=
  match values.filter (·.1 = name) with
  | [] => some default_
  | [(_, value)] => read? value
  | _ => none

/-- The named values of a configuration text.  The values of an array take the names of the settings
in order, and there may not be more of them. -/
def namedValues? : JsonText → Option (List (String × JsonText))
  | .object members =>
    members.mapM fun (units, value) => (JsonText.decodeUnits? units).map (String.ofList ·, value)
  | .array items =>
    if items.length ≤ settingNames.length then some (settingNames.zip items) else none
  | _ => none

def ofText? (text : JsonText) : Option MapperConfig := do
  let values ← namedValues? text
  let naming (name : String) : Option NamingConvention :=
    setting? values name (fun value => value.word? >>= NamingConvention.ofWord?) .identity
  return {
    fieldNaming := ← naming "field_naming"
    collectionNaming := ← naming "collection_naming"
    discriminatorNaming := ← naming "discriminator_naming"
    discriminatorKey :=
      ← setting? values "discriminator_key" JsonText.text? defaultDiscriminatorKey
    propertyDiscovery :=
      ← setting? values "property_discovery"
        (fun value => value.word? >>= PropertyDiscovery.ofWord?) .fields
    storeNulls := ← setting? values "store_nulls" JsonText.boolean? false
    storeEmpties := ← setting? values "store_empties" JsonText.boolean? false
  }

def parse (json : String) : Except MappingError MapperConfig :=
  match JsonText.ofString? json >>= ofText? with
  | some config => .ok config
  | none => .error (.serialization "the text is no configuration")

def toJson (config : MapperConfig) : JsonValue :=
  .ofMembers [
    ("field_naming", .string config.fieldNaming.word),
    ("collection_naming", .string config.collectionNaming.word),
    ("discriminator_naming", .string config.discriminatorNaming.word),
    ("discriminator_key", .string config.discriminatorKey),
    ("property_discovery", .string config.propertyDiscovery.word),
    ("store_nulls", .boolean config.storeNulls),
    ("store_empties", .boolean config.storeEmpties)]

end MapperConfig

end ObjectDocument
