import ObjectDocument.Bson.Extended
import ObjectDocument.Error

/-!
# Identifiers in documents

A document keeps an identifier as text or as bytes, and each way of keeping it reads more than it
writes.  Where text is written, sixteen bytes that are nothing in particular are read too, and the
first sixteen numbers of an array.  Where bytes are written, the text is read too, and a document
that stands for the bytes.
-/

namespace ObjectDocument.Uuid

inductive Form where
  | text
  | bytes
deriving DecidableEq, Repr

def readText? : Bson → Option Uuid
  | .string text => parse? text
  | .binary subtype bytes => if subtype = plainSubtype then ofBytes? bytes else none
  | .array items => (items.take 16).mapM Extended.byte? >>= ofBytes?
  | _ => none

def readBytes? : Bson → Option Uuid
  | .string text => parse? text
  | .binary subtype bytes => if subtype = uuidSubtype then ofBytes? bytes else none
  | .document entries =>
    match Bson.readMembers? entries with
    | some (.binary subtype bytes) =>
      if subtype ∈ [uuidSubtype, plainSubtype] then ofBytes? bytes else none
    | _ => none
  | _ => none

def ofBson (form : Form) (value : Bson) : Except MappingError Uuid :=
  let read :=
    match form with
    | .text => readText? value
    | .bytes => readBytes? value
  match read with
  | some uuid => .ok uuid
  | none => .error (.serialization "the value is no identifier")

def toBson (form : Form) (uuid : Uuid) : Bson :=
  match form with
  | .text => .string uuid.text
  | .bytes => .binary uuidSubtype uuid.bytes

end ObjectDocument.Uuid
