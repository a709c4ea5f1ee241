import ObjectDocument.Number.Double
import ObjectDocument.OrderedMap

/-!
# Document values

The values that a stored document is made of.  A document is an ordered map, because the order of
its entries is part of it.
-/

namespace ObjectDocument

inductive Bson where
  | null
  | undefined
  | minKey
  | maxKey
  | boolean (value : Bool)
  | int32 (value : Int32)
  | int64 (value : Int64)
  | double (value : Double)
  | string (text : String)
  | symbol (text : String)
  | objectId (bytes : List UInt8)
  /-- An object of another collection, by the name of the collection and its identifier. -/
  | dbPointer (collection : String) (id : List UInt8)
  | dateTime (millis : Int64)
  | timestamp (time increment : UInt32)
  | decimal (bytes : List UInt8)
  | binary (subtype : UInt8) (bytes : List UInt8)
  | regex (pattern options : String)
  | code (source : String)
  | scopedCode (source : String) (scope : List (String × Bson))
  | array (items : List Bson)
  | document (entries : List (String × Bson))
deriving Repr, Inhabited

inductive Bson.Sort where
  | null
  | undefined
  | minKey
  | maxKey
  | boolean
  | int32
  | int64
  | double
  | string
  | symbol
  | objectId
  | dbPointer
  | dateTime
  | timestamp
  | decimal
  | binary
  | regex
  | code
  | scopedCode
  | array
  | document
deriving DecidableEq, Repr

def Bson.Sort.name : Bson.Sort → String
  | .null => "Null"
  | .undefined => "Undefined"
  | .minKey => "MinKey"
  | .maxKey => "MaxKey"
  | .boolean => "Boolean"
  | .int32 => "Int32"
  | .int64 => "Int64"
  | .double => "Double"
  | .string => "String"
  | .symbol => "Symbol"
  | .objectId => "ObjectId"
  | .dbPointer => "DbPointer"
  | .dateTime => "DateTime"
  | .timestamp => "Timestamp"
  | .decimal => "Decimal128"
  | .binary => "Binary"
  | .regex => "RegularExpression"
  | .code => "JavaScriptCode"
  | .scopedCode => "JavaScriptCodeWithScope"
  | .array => "Array"
  | .document => "EmbeddedDocument"

def Bson.sort : Bson → Bson.Sort
  | .null => .null
  | .undefined => .undefined
  | .minKey => .minKey
  | .maxKey => .maxKey
  | .boolean _ => .boolean
  | .int32 _ => .int32
  | .int64 _ => .int64
  | .double _ => .double
  | .string _ => .string
  | .symbol _ => .symbol
  | .objectId _ => .objectId
  | .dbPointer .. => .dbPointer
  | .dateTime _ => .dateTime
  | .timestamp .. => .timestamp
  | .decimal _ => .decimal
  | .binary .. => .binary
  | .regex .. => .regex
  | .code _ => .code
  | .scopedCode .. => .scopedCode
  | .array _ => .array
  | .document _ => .document

def Bson.isMissing : Bson → Bool
  | .null | .undefined => true
  | _ => false

def plainSubtype : UInt8 := 0

def uuidSubtype : UInt8 := 4

abbrev Document := OrderedMap String Bson

end ObjectDocument
