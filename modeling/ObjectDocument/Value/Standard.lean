import ObjectDocument.Value.SlotType
import ObjectDocument.Value.StoredUuid

/-!
# A calendar and identifiers

The values that other libraries have if a program brings no types of its own along.  A moment is one
of a calendar of some years, told to the nanosecond, so that more moments than one are stored as the
same date, and dates beyond the calendar are read as its first or its last moment.  Identifiers are
of two types, by the form in which documents keep them.
-/

namespace ObjectDocument

/-- The first and the last second of the calendar, counted from that of the date zero. -/
def Moment.range : Int × Int :=
  (-8334601228800, 8210266876799)

structure Moment where
  seconds : Int
  /-- The nanoseconds since the beginning of the second, which may be one with a leap second. -/
  nanos : Nat
  seconds_mem : Moment.range.1 ≤ seconds ∧ seconds ≤ Moment.range.2
  nanos_lt : nanos < 2000000000
deriving DecidableEq, Repr

namespace Moment

def first : Moment :=
  ⟨range.1, 0, by decide, by decide⟩

def last : Moment :=
  ⟨range.2, 999999999, by decide, by decide⟩

/-- The moment of a stored date, or the one of the calendar that is nearest to it. -/
def ofDate (millis : Int64) : Moment :=
  if h : range.1 ≤ millis.toInt / 1000 ∧ millis.toInt / 1000 ≤ range.2 then
    ⟨millis.toInt / 1000, (millis.toInt % 1000).toNat * 1000000, h, by omega⟩
  else if millis.toInt < 0 then first
  else last

/-- The date of a moment, which is told to the millisecond. -/
def toDate (moment : Moment) : Int64 :=
  Int64.ofInt (moment.seconds * 1000 + (moment.nanos / 1000000 : Nat))

end Moment

/-- The form in which documents keep the identifiers of a type. -/
def Uuid.formOf? : String → Option Uuid.Form
  | "Uuid" => some .text
  | "BsonUuid" => some .bytes
  | _ => none

-- Values of a type that there is not are never read, so they may be anything.
instance : ValueTypes where
  Moment := Moment
  ofDate := Moment.ofDate
  toDate := Moment.toDate
  Custom _ := Uuid
  ofBson name value :=
    match Uuid.formOf? name with
    | some form => Uuid.ofBson form value
    | none => .error (.serialization ("there is no type " ++ name))
  toBson name uuid :=
    match Uuid.formOf? name with
    | some form => .ok (uuid.toBson form)
    | none => .error (.serialization ("there is no type " ++ name))

end ObjectDocument
