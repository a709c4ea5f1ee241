import ObjectDocument.Number.BinaryFormat

/-!
# Floating point numbers

A number is kept as its bits, which is what a document stores.  The conversions that documents
need are exact: `Double.toInt?` reads the integer that a number is worth, if it is worth one, and
`Double.ofInt`, `Double.toSingle` and `Single.toDouble` round to the nearest number.
-/

namespace ObjectDocument

-- Powers are those of `Nat` and `Int` themselves, whatever algebra is at hand.  Exponents that are
-- numerals have their type written for the same reason.
attribute [local instance (high)] instPowNat

structure Double where
  bits : UInt64
deriving DecidableEq, Repr, Inhabited

structure Single where
  bits : UInt32
deriving DecidableEq, Repr, Inhabited

namespace Double

def isNegative (d : Double) : Bool :=
  2 ^ (63 : Nat) ≤ d.bits.toNat

def magnitude (d : Double) : Nat :=
  d.bits.toNat % 2 ^ (63 : Nat)

def isNaN (d : Double) : Bool :=
  BinaryFormat.binary64.infinity < d.magnitude

def isFinite (d : Double) : Bool :=
  d.magnitude < BinaryFormat.binary64.infinity

def ofParts (negative : Bool) (magnitude : Nat) : Double :=
  ⟨UInt64.ofNat (magnitude + if negative then 2 ^ (63 : Nat) else 0)⟩

def toInt? (d : Double) : Option Int := do
  let (significand, exponent) ← BinaryFormat.binary64.decode? d.magnitude
  let unsigned ←
    if 0 ≤ exponent then some (significand * 2 ^ exponent.toNat)
    else if significand % 2 ^ (-exponent).toNat = 0 then
      some (significand / 2 ^ (-exponent).toNat)
    else none
  return if d.isNegative then -unsigned else unsigned

def ofInt (n : Int) : Double :=
  ofParts (n < 0) (BinaryFormat.binary64.round n.natAbs 0)

def toSingle (d : Double) : Single :=
  let magnitude :=
    match BinaryFormat.binary64.decode? d.magnitude with
    | some (significand, exponent) => BinaryFormat.binary32.round significand exponent
    | none =>
      BinaryFormat.binary32.infinity +
        if d.isNaN then 2 ^ (BinaryFormat.binary32.fractionBits - 1) else 0
  ⟨UInt32.ofNat (magnitude + if d.isNegative then 2 ^ (31 : Nat) else 0)⟩

end Double

def Single.toDouble (s : Single) : Double :=
  let magnitude := s.bits.toNat % 2 ^ (31 : Nat)
  Double.ofParts (2 ^ (31 : Nat) ≤ s.bits.toNat) <|
    match BinaryFormat.binary32.decode? magnitude with
    | some (significand, exponent) => BinaryFormat.binary64.round significand exponent
    | none =>
      BinaryFormat.binary64.infinity +
        if BinaryFormat.binary32.infinity < magnitude then
          2 ^ (BinaryFormat.binary64.fractionBits - 1)
        else 0

end ObjectDocument
