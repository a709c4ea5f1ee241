import ObjectDocument.Bson.Number
import ObjectDocument.Value.SlotType

/-!
# Slot values and document values

`toBson` writes the value of a slot into a document, and `ofBson` reads it back.  Reading is wider
than writing: a number of any sort is read where it is in range, and a missing value may be null or
undefined.  What is read and written again is the normal form of a document value for that type.
-/

namespace ObjectDocument

-- Powers are those of `Nat` and `Int` themselves, whatever algebra is at hand.  Exponents that are
-- numerals have their type written for the same reason.
attribute [local instance (high)] instPowNat

/-- Puts a value under a key of a list in the order of its keys, replacing the one that is there. -/
def insertSorted {α : Type} (key : String) (value : α) : List (String × α) → List (String × α)
  | [] => [(key, value)]
  | entry :: rest =>
    if key < entry.1 then (key, value) :: entry :: rest
    else if key = entry.1 then (key, value) :: rest
    else entry :: insertSorted key value rest

/-- The entries in the order of their keys, the last one of each key. -/
def sortEntries {α : Type} (entries : List (String × α)) : List (String × α) :=
  entries.foldl (fun sorted entry => insertSorted entry.1 entry.2 sorted) []

/-- Reads an integer in a range, which starts at `low` and ends before `high`. -/
def readInt {α : Type} (label : String) (low high : Int) (make : Int → α) (value : Bson) :
    Except MappingError α :=
  match value.toInt? with
  | some n => if low ≤ n ∧ n < high then .ok (make n) else .error (.unexpected label value)
  | none => .error (.unexpected label value)

def readDouble {α : Type} (label : String) (make : Double → α) (value : Bson) :
    Except MappingError α :=
  match value.toDouble? with
  | some d => .ok (make d)
  | none => .error (.unexpected label value)

def readDate : Bson → Except MappingError Int64
  | .dateTime millis => .ok millis
  | value => .error (.unexpected "datetime" value)

def readItems {α : Type} (read : Bson → Except MappingError α) :
    Bson → Except MappingError (List α)
  | .array items => items.mapM read
  | value => .error (.unexpected "array" value)

def readDocument : Bson → Except MappingError Document
  | .document entries => .ok entries
  | value => .error (.unexpected "document" value)

variable [ValueTypes]

namespace SlotType

def ofBson : (type : SlotType) → Bson → Except MappingError type.Carrier
  | .byte, value => readInt "u8" 0 (2 ^ (8 : Nat)) (fun n => UInt8.ofNat n.toNat) value
  | .int16, value => readInt "i16" (-2 ^ (15 : Nat)) (2 ^ (15 : Nat)) Int16.ofInt value
  | .int32, value => readInt "i32" (-2 ^ (31 : Nat)) (2 ^ (31 : Nat)) Int32.ofInt value
  | .int64, value => readInt "i64" (-2 ^ (63 : Nat)) (2 ^ (63 : Nat)) Int64.ofInt value
  | .single, value => readDouble "f32" Double.toSingle value
  | .double, value => readDouble "f64" id value
  | .boolean, value =>
    match value with
    | .boolean b => .ok b
    | value => .error (.unexpected "bool" value)
  | .character, value =>
    match value with
    | .string text =>
      match text.toList with
      | [c] => .ok c
      | _ => .error (.unexpected "a single character" value)
    | value => .error (.unexpected "a single character" value)
  | .string, value =>
    match value with
    | .string text => .ok text
    | value => .error (.unexpected "string" value)
  | .objectId, value =>
    match value with
    | .objectId bytes => .ok bytes
    | value => .error (.unexpected "object id" value)
  | .dateTime, value => readDate value
  | .document, value => readDocument value
  | .any, value => .ok value
  | .moment, value => ValueTypes.ofDate <$> readDate value
  | .custom name, value => ValueTypes.ofBson name value
  | .option type, value =>
    match value with
    | .null | .undefined => .ok none
    | value => some <$> type.ofBson value
  | .list type, value => readItems type.ofBson value
  | .fixed length type, value => do
    let items ← readItems type.ofBson value
    if h : items.length = length then .ok ⟨items, h⟩
    else .error (.conversion (.length length items.length))
  | .map type, value => do
    let entries ← readDocument value
    sortEntries <$> entries.mapM fun entry => (entry.1, ·) <$> type.ofBson entry.2

def toBson : (type : SlotType) → type.Carrier → Except MappingError Bson
  | .byte, n => .ok (.int32 (Int32.ofInt (UInt8.toNat n)))
  | .int16, n => .ok (.int32 (Int32.ofInt (Int16.toInt n)))
  | .int32, n => .ok (.int32 n)
  | .int64, n => .ok (.int64 n)
  | .single, d => .ok (.double (Single.toDouble d))
  | .double, d => .ok (.double d)
  | .boolean, b => .ok (.boolean b)
  | .character, c => .ok (.string (String.ofList [c]))
  | .string, text => .ok (.string text)
  | .objectId, bytes => .ok (.objectId bytes)
  | .dateTime, millis => .ok (.dateTime millis)
  | .document, entries => .ok (.document entries)
  | .any, value => .ok value
  | .moment, value => .ok (.dateTime (ValueTypes.toDate value))
  | .custom name, value => ValueTypes.toBson name value
  | .option type, value =>
    match value with
    | some value => type.toBson value
    | none => .ok .null
  | .list type, items => .array <$> List.mapM type.toBson items
  | .fixed _ type, items => .array <$> List.mapM type.toBson items.val
  | .map type, entries => do
    let written ← List.mapM (fun entry => (entry.1, ·) <$> type.toBson entry.2) entries
    return .document (OrderedMap.ofEntries written)

end SlotType

structure Slot where
  type : SlotType
  value : type.Carrier

namespace Slot

def ofBson (type : SlotType) (value : Bson) : Except MappingError Slot :=
  (⟨type, ·⟩) <$> type.ofBson value

def read (slot : Slot) : Except MappingError Bson :=
  slot.type.toBson slot.value

/-- Puts a new value of its type into the slot, which keeps its own if the value is not read. -/
def write (slot : Slot) (value : Bson) : Slot × Except MappingError Unit :=
  match ofBson slot.type value with
  | .ok written => (written, .ok ())
  | .error cause => (slot, .error cause)

end Slot

end ObjectDocument
