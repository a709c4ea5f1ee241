import ObjectDocument.Bson.Basic
import ObjectDocument.Json.Value
import ObjectDocument.Number.Decimal
import ObjectDocument.Text.Base64
import ObjectDocument.Text.Hex

/-!
# The JSON form of documents

Values that JSON has are themselves, but numbers that are not finite become null.  Every other value
is an object of one member, whose name begins with a dollar sign and says what the value is.  Bytes
that are marked as nothing in particular are the array of their values.
-/

namespace ObjectDocument

namespace JsonValue

def single (name : String) (value : JsonValue) : JsonValue :=
  .object [(name, value)]

def ofBytes (bytes : List UInt8) : JsonValue :=
  .array (bytes.map fun byte => .integer byte.toNat)

def ofObjectId (bytes : List UInt8) : JsonValue :=
  .single "$oid" (.string (String.ofList (Text.hexOfBytes bytes)))

end JsonValue

namespace Bson

mutual
def toJson : Bson → JsonValue
  | .null => .null
  | .undefined => .single "$undefined" (.boolean true)
  | .minKey => .single "$minKey" (.integer 1)
  | .maxKey => .single "$maxKey" (.integer 1)
  | .boolean value => .boolean value
  | .int32 value => .integer value.toInt
  | .int64 value => .integer value.toInt
  | .double value => if value.isFinite then .double value else .null
  | .string text => .string text
  | .symbol text => .single "$symbol" (.string text)
  | .objectId bytes => .ofObjectId bytes
  | .dbPointer collection id =>
    .single "$dbPointer" (.ofMembers [("$ref", .string collection), ("$id", .ofObjectId id)])
  | .dateTime millis =>
    .single "$date" (.single "$numberLong" (.string (toString millis.toInt)))
  | .timestamp time increment =>
    .single "$timestamp" (.ofMembers [("t", .integer time.toNat), ("i", .integer increment.toNat)])
  | .decimal bytes => .single "$numberDecimal" (.string (Decimal.ofBytes bytes).text)
  | .binary subtype bytes =>
    if subtype = plainSubtype then .ofBytes bytes
    else .single "$binary" (.ofMembers [
      ("base64", .string (String.ofList (Text.base64 bytes))),
      ("subType", .string (String.ofList (Text.hexOfByte subtype)))])
  | .regex pattern options =>
    .single "$regularExpression"
      (.ofMembers [("pattern", .string pattern), ("options", .string options)])
  | .code source => .single "$code" (.string source)
  | .scopedCode source scope =>
    .ofMembers [("$code", .string source), ("$scope", .ofMembers (membersToJson scope))]
  | .array items => .array (itemsToJson items)
  | .document entries => .ofMembers (membersToJson entries)

def itemsToJson : List Bson → List JsonValue
  | [] => []
  | item :: rest => toJson item :: itemsToJson rest

def membersToJson : List (String × Bson) → List (String × JsonValue)
  | [] => []
  | (key, value) :: rest => (key, toJson value) :: membersToJson rest
end

end Bson

end ObjectDocument
