import ObjectDocument.Bson.Basic
import ObjectDocument.Number.Decimal
import ObjectDocument.Number.Literal
import ObjectDocument.Text.Base64
import ObjectDocument.Text.Calendar
import ObjectDocument.Uuid

/-!
# Documents that stand for other values

A document may stand for a value that its writer had no other way to write.  The name of a member
says so: it begins with a dollar sign, and `form?` knows it.  The first member of such a name
decides what the document is, and what stands after it does not count.  `Bson.read?` says what a
value is read as, which fails if a form does not have the body that it needs, wherever that is in
the value.
-/

namespace ObjectDocument

-- Powers are those of `Nat` and `Int` themselves, whatever algebra is at hand.
attribute [local instance (high)] instPowNat

/-- What a value is read as, as far as readers tell values apart. -/
inductive Extended where
  | binary (subtype : UInt8) (bytes : List UInt8)
  | document
  | other
deriving DecidableEq, Repr

namespace Extended

/-- The text that a value is: a string, or plain bytes that encode one. -/
def text? : Bson → Option String
  | .string text => some text
  | .binary subtype bytes =>
    if subtype = plainSubtype then String.fromUTF8? ⟨bytes.toArray⟩ else none
  | _ => none

def whole? : Bson → Option Int
  | .int32 value => some value.toInt
  | .int64 value => some value.toInt
  | _ => none

def natural? (bits : Nat) (value : Bson) : Option Nat := do
  let n ← whole? value
  if 0 ≤ n ∧ n < 2 ^ bits then some n.toNat else none

def byte? (value : Bson) : Option UInt8 :=
  UInt8.ofNat <$> natural? 8 value

/-- The values of the given names: a document has these members and no others, in any order, and an
array has them first. -/
def parts? (names : List String) : Bson → Option (List Bson)
  | .document entries =>
    if entries.all (names.contains ·.1) then names.mapM (OrderedMap.get? · entries) else none
  | .array items => if names.length ≤ items.length then some (items.take names.length) else none
  | _ => none

def otherIf (holds : Bool) : Option Extended :=
  if holds then some .other else none

def isObjectId (text : String) : Bool :=
  (Text.bytesOfHex? text.toList).any (·.length == 12)

def objectId? : Bson → Option Extended
  | .binary subtype bytes => otherIf (subtype == plainSubtype && bytes.length == 12)
  | .string text => otherIf (isObjectId text)
  | _ => none

def binary? (body : Bson) : Option Extended := do
  match ← (← parts? ["base64", "subType"] body).mapM text? with
  | [text, subtype] =>
    let bytes ← Text.bytesOfBase64? text.toList
    match ← Text.bytesOfHex? subtype.toList with
    | [subtype] => return .binary subtype bytes
    | _ => none
  | _ => none

def uuid? (body : Bson) : Option Extended := do
  let uuid ← Uuid.parse? (← text? body)
  return .binary uuidSubtype uuid.bytes

def date? (body : Bson) : Option Extended :=
  match body with
  | .int32 _ | .int64 _ => some .other
  | .document [(name, millis)] =>
    otherIf (name == "$numberLong" && (text? millis).any (Literal.signed? 64 ·.toList |>.isSome))
  | .array [millis] => otherIf ((text? millis).any (Literal.signed? 64 ·.toList |>.isSome))
  | body => otherIf ((text? body).any (Calendar.isMoment ·.toList))

def decimalBytes? (body : Bson) : Option Extended := do
  let size ← match body with
    | .string text => some text.utf8ByteSize
    | .binary subtype bytes => if subtype = plainSubtype then some bytes.length else none
    | .array items => List.length <$> items.mapM byte?
    | _ => none
  otherIf (size == 16)

def timestamp? (body : Bson) : Option Extended := do
  let _ ← (← parts? ["t", "i"] body).mapM (natural? 32)
  return .other

def regex? (body : Bson) : Option Extended := do
  let texts ← (← parts? ["pattern", "options"] body).mapM text?
  otherIf (texts.all fun text => !text.toList.contains '\x00')

def pointer? (body : Bson) : Option Extended := do
  match ← parts? ["$ref", "$id"] body with
  | [collection, target] =>
    let _ ← text? collection
    match target with
    | .objectId _ => return .other
    | target =>
      let texts ← (← parts? ["$oid"] target).mapM text?
      otherIf (texts.all isObjectId)
  | _ => none

def ofText? (holds : String → Bool) (body : Bson) : Option Extended :=
  otherIf ((text? body).any holds)

def form? : String → Option (Bson → Option Extended)
  | "$oid" => some objectId?
  | "$symbol" => some (ofText? fun _ => true)
  | "$numberInt" => some (ofText? (Literal.signed? 32 ·.toList |>.isSome))
  | "$numberLong" => some (ofText? (Literal.signed? 64 ·.toList |>.isSome))
  | "$numberDouble" => some (ofText? (Literal.isReal ·.toList))
  | "$numberDecimal" => some (ofText? (Decimal.ofText? · |>.isSome))
  | "$numberDecimalBytes" => some decimalBytes?
  | "$binary" => some binary?
  | "$uuid" => some uuid?
  | "$timestamp" => some timestamp?
  | "$regularExpression" => some regex?
  | "$dbPointer" => some pointer?
  | "$date" => some date?
  | "$minKey" | "$maxKey" => some fun body => otherIf (whole? body == some 1)
  | "$undefined" => some fun
    | .boolean value => otherIf value
    | _ => none
  | _ => none

end Extended

open Extended

namespace Bson

mutual
def read? : Bson → Option Extended
  | .binary subtype bytes => some (.binary subtype bytes)
  | .array items => otherIf (areRead items)
  | .document entries => readMembers? entries
  | .scopedCode _ scope => otherIf (readMembers? scope == some .document)
  | _ => some .other

def areRead : List Bson → Bool
  | [] => true
  | item :: rest => (read? item).isSome && areRead rest

/-- What the members of a document are read as.  Code is a form of its own: it may have a scope
beside it, before or after, and nothing else. -/
def readMembers? : List (String × Bson) → Option Extended
  | [] => some .document
  | (name, body) :: rest =>
    if name = "$code" then
      match rest with
      | [] => otherIf (text? body).isSome
      | (next, scope) :: _ =>
        otherIf (next == "$scope" && (text? body).isSome && read? scope == some .document)
    else if name = "$scope" then
      match rest with
      | (next, source) :: _ =>
        otherIf (next == "$code" && (text? source).isSome && read? body == some .document)
      | [] => none
    else
      match form? name with
      | some form => form body
      | none => if (read? body).isSome then readMembers? rest else none
end

end Bson

end ObjectDocument
