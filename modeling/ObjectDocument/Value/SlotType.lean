import ObjectDocument.Error

/-!
# Slot types

The part of an instance that holds one value is a slot, and the type of a slot fixes the values that
it can hold.  `SlotType` names these types, and `Carrier` gives the values of each: a slot of a
fixed length holds lists of that length and no others.

Not all values are of types that are known here.  Moments are those of a calendar, and a program may
bring types of its own, each with a name.  `ValueTypes` has these values and their conversions, and
`LawfulValueTypes` says what is expected of them.
-/

namespace ObjectDocument

/-- The values of other libraries: the moments of a calendar, and the values of types that have
names. -/
class ValueTypes where
  Moment : Type
  /-- The moment of a stored date. -/
  ofDate : Int64 → Moment
  /-- The date that a moment is stored as. -/
  toDate : Moment → Int64
  Custom : String → Type
  ofBson (name : String) : Bson → Except MappingError (Custom name)
  toBson (name : String) : Custom name → Except MappingError Bson

/-- What is expected of the values of other libraries. -/
class LawfulValueTypes [ValueTypes] : Prop where
  /-- A date that was read and stored again is read as a moment that is stored as the same date. -/
  toDate_ofDate (millis : Int64) :
    ValueTypes.toDate (ValueTypes.ofDate (ValueTypes.toDate (ValueTypes.ofDate millis))) =
      ValueTypes.toDate (ValueTypes.ofDate millis)
  /-- A value that was read is written, and is read from that as one that is written the same. -/
  exists_again {name : String} {b : Bson} {value : ValueTypes.Custom name} :
    ValueTypes.ofBson name b = .ok value →
      ∃ written again, ValueTypes.toBson name value = .ok written ∧
        ValueTypes.ofBson name written = .ok again ∧ ValueTypes.toBson name again = .ok written
  /-- Something that was read is not written like nothing. -/
  isMissing_toBson {name : String} {b written : Bson} {value : ValueTypes.Custom name} :
    ValueTypes.ofBson name b = .ok value → ValueTypes.toBson name value = .ok written →
      b.isMissing = false → written.isMissing = false
  /-- The error of a value that is not read speaks of the value. -/
  ofBson_error {name : String} {b : Bson} {cause : MappingError} :
    ValueTypes.ofBson name b = .error cause → cause.OfValue

inductive SlotType where
  | byte
  | int16
  | int32
  | int64
  | single
  | double
  | boolean
  | character
  | string
  | objectId
  | dateTime
  | document
  /-- Any document value, as it is. -/
  | any
  /-- A moment of the calendar, which knows other moments than a stored date does. -/
  | moment
  /-- A value of a type that is not known here. -/
  | custom (name : String)
  | option (type : SlotType)
  | list (type : SlotType)
  /-- A list of one length. -/
  | fixed (length : Nat) (type : SlotType)
  /-- Values under keys, in the order of the keys. -/
  | map (type : SlotType)
deriving DecidableEq, Repr

def SlotType.Carrier [ValueTypes] : SlotType → Type
  | .byte => UInt8
  | .int16 => Int16
  | .int32 => Int32
  | .int64 => Int64
  | .single => Single
  | .double => Double
  | .boolean => Bool
  | .character => Char
  | .string => String
  | .objectId => List UInt8
  | .dateTime => Int64
  | .document => Document
  | .any => Bson
  | .moment => ValueTypes.Moment
  | .custom name => ValueTypes.Custom name
  | .option type => Option type.Carrier
  | .list type => List type.Carrier
  | .fixed length type => { items : List type.Carrier // items.length = length }
  | .map type => List (String × type.Carrier)

end ObjectDocument
