import ObjectDocument.Bson.Basic

/-!
# Numbers of documents

A document has three sorts of numbers, and a value of one sort may be asked for as another.  A
floating point number stands for an integer if it is worth one; beyond 64 bits it stands for the
nearest integer of 64 bits.
-/

namespace ObjectDocument

-- Powers are those of `Nat` and `Int` themselves, whatever algebra is at hand.  Exponents that are
-- numerals have their type written for the same reason.
attribute [local instance (high)] instPowNat

/-- The integer of 64 bits nearest to an integer. -/
def clampInt64 (n : Int) : Int :=
  max (-2 ^ (63 : Nat)) (min n (2 ^ (63 : Nat) - 1))

namespace Bson

def toInt? : Bson → Option Int
  | .int32 value => some value.toInt
  | .int64 value => some value.toInt
  | .double value => value.toInt?.map clampInt64
  | _ => none

def toDouble? : Bson → Option Double
  | .int32 value => some (Double.ofInt value.toInt)
  | .int64 value => some (Double.ofInt value.toInt)
  | .double value => some value
  | _ => none

end Bson

end ObjectDocument
