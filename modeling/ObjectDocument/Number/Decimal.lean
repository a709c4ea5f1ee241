import ObjectDocument.Number.Literal

/-!
# Decimal floating point numbers

A decimal number is a coefficient of up to 34 digits times a power of ten; it keeps its exponent, so
that `1` and `1.0` are different numbers.  `ofBits` reads the stored form of 128 bits, `text` writes
a number and `ofText?` reads one.  Nothing is ever rounded: a text that no decimal number equals is
no decimal number.
-/

namespace ObjectDocument

-- Powers are those of `Nat` and `Int` themselves, whatever algebra is at hand.
attribute [local instance (high)] instPowNat

inductive Decimal where
  | finite (negative : Bool) (coefficient : Nat) (exponent : Int)
  | infinite (negative : Bool)
  | nan
deriving DecidableEq, Repr

namespace Decimal

def precision : Nat := 34

def leastExponent : Int := -6176

def greatestExponent : Int := 6111

/-- The number that 128 bits stand for.  A coefficient of too many digits counts as zero, which is
what every coefficient in the second place of the exponent field is. -/
def ofBits (bits : Nat) : Decimal :=
  let field (low width : Nat) : Nat := bits / 2 ^ low % 2 ^ width
  let negative := field 127 1 = 1
  if field 122 5 = 31 then .nan
  else if field 122 5 = 30 then .infinite negative
  else if field 125 2 = 3 then .finite negative 0 (leastExponent + field 111 14)
  else
    let coefficient := field 0 113
    .finite negative (if coefficient < 10 ^ precision then coefficient else 0)
      (leastExponent + field 113 14)

def ofBytes (bytes : List UInt8) : Decimal :=
  ofBits (bytes.foldr (fun byte bits => byte.toNat + 256 * bits) 0)

def positional (digits : List Char) (places : Nat) : List Char :=
  if places = 0 then digits
  else
    let padded := List.replicate (places + 1 - digits.length) '0' ++ digits
    let whole := padded.length - places
    padded.take whole ++ '.' :: padded.drop whole

def scientific (digits : List Char) (exponent : Int) : List Char :=
  let fraction := if digits.length ≤ 1 then [] else '.' :: digits.drop 1
  let sign := if exponent < 0 then '-' else '+'
  digits.take 1 ++ fraction ++ 'E' :: sign :: Nat.toDigits 10 exponent.natAbs

/-- The least exponent of a first digit that is written without an exponent. -/
def leastPositional : Int := -6

def text : Decimal → String
  | .nan => "NaN"
  | .infinite negative => if negative then "-Infinity" else "Infinity"
  | .finite negative coefficient exponent =>
    let digits := Nat.toDigits 10 coefficient
    let first := exponent + (digits.length - 1 : Nat)
    let unsigned :=
      if exponent ≤ 0 ∧ leastPositional ≤ first then positional digits exponent.natAbs
      else scientific digits first
    String.ofList (if negative then '-' :: unsigned else unsigned)

def cut? (digits : List Char) (size : Nat) : Option (List Char) :=
  if size ≤ digits.length ∧ (digits.drop size).all (· == '0') then some (digits.take size) else none

def fitPrecision? (digits : List Char) (exponent : Int) : Option (List Char × Int) :=
  if digits.length ≤ precision then some (digits, exponent)
  else (cut? digits precision).map (·, exponent + (digits.length - precision : Nat))

/-- Moves the exponent into its range, for which digits are taken off or zeros are put on. -/
def fitExponent? (digits : List Char) (exponent : Int) : Option (List Char × Int) :=
  if exponent < leastExponent then
    if digits = ['0'] then some (digits, leastExponent)
    else
      let excess := (leastExponent - exponent).toNat
      if digits.length < excess then none
      else (cut? digits (digits.length - excess)).map (·, leastExponent)
  else if greatestExponent < exponent then
    if digits = ['0'] then some (digits, greatestExponent)
    else
      let missing := (exponent - greatestExponent).toNat
      if precision < digits.length + missing then none
      else some (digits ++ List.replicate missing '0', greatestExponent)
  else some (digits, exponent)

def dropZeros (digits : List Char) : List Char :=
  match digits.dropWhile (· == '0') with
  | [] => ['0']
  | rest => rest

/-- How many bits the exponent of a text may have, before and after the digits of its fraction are
taken from it. -/
def exponentBits : Nat := 128

/-- The coefficient and exponent of a finite number without its sign, in lower case.  Digits may be
missing altogether. -/
def finite? (text : List Char) : Option (Nat × Int) := do
  let exponent ←
    match text.dropWhile (· != 'e') with
    | [] => some 0
    | _ :: exponent => Literal.signed? exponentBits exponent
  let mantissa := text.takeWhile (· != 'e')
  let whole := mantissa.takeWhile (· != '.')
  let fraction := (mantissa.dropWhile (· != '.')).drop 1
  let exponent := exponent - fraction.length
  if exponent < -2 ^ (exponentBits - 1) then none
  else do
    let (digits, exponent) ← fitPrecision? (dropZeros (whole ++ fraction)) exponent
    let (digits, exponent) ← fitExponent? digits exponent
    let coefficient ← Literal.nat? digits
    return (coefficient, exponent)

def ofText? (text : String) : Option Decimal :=
  let (negative, unsigned) := Literal.dropSign text.toList
  let lower := unsigned.map Char.toLower
  if ["nan".toList, "snan".toList].contains lower then some .nan
  else if ["inf".toList, "infinity".toList].contains lower then some (.infinite negative)
  else (finite? lower).map fun (coefficient, exponent) => .finite negative coefficient exponent

end Decimal

end ObjectDocument
