/-!
# Binary floating point formats

A finite magnitude is a natural number times a power of two, and a format holds some of them as
bit patterns: an exponent field above a fraction field.  `decode?` reads a pattern exactly, and
`round` finds the pattern nearest to any magnitude, a tie going to the even one.  Both are exact
arithmetic on natural numbers and integers, so what a number is worth can be reasoned about.

The patterns of a format are in the order of what they are worth, and each is one more than the
one before.  This is why `round` may add the rounded significand to the exponent's position: a
significand that rounds up to the next power of two carries into the exponent by itself.
-/

namespace ObjectDocument

-- Powers are those of `Nat` and `Int` themselves, whatever algebra is at hand.
attribute [local instance (high)] instPowNat

/-- A binary format: the widths of its fraction and exponent fields. -/
structure BinaryFormat where
  fractionBits : Nat
  exponentBits : Nat

namespace BinaryFormat

def binary64 : BinaryFormat := ⟨52, 11⟩

def binary32 : BinaryFormat := ⟨23, 8⟩

/-- The exponent of the least positive magnitude, the unit of the smallest numbers. -/
def leastExponent (f : BinaryFormat) : Int :=
  2 - 2 ^ (f.exponentBits - 1) - f.fractionBits

/-- The pattern of infinity.  Patterns above it are no numbers. -/
def infinity (f : BinaryFormat) : Nat :=
  (2 ^ f.exponentBits - 1) * 2 ^ f.fractionBits

/-- The significand and exponent of a pattern without its sign, if it is finite. -/
def decode? (f : BinaryFormat) (pattern : Nat) : Option (Nat × Int) :=
  if pattern < f.infinity then
    let exponent := pattern / 2 ^ f.fractionBits
    let fraction := pattern % 2 ^ f.fractionBits
    if exponent = 0 then some (fraction, f.leastExponent)
    else some (2 ^ f.fractionBits + fraction, f.leastExponent + (exponent - 1 : Nat))
  else
    none

def bitLength (n : Nat) : Nat :=
  if n = 0 then 0 else n.log2 + 1

def roundQuotient (n d : Nat) : Nat :=
  if d < 2 * (n % d) ∨ (2 * (n % d) = d ∧ n / d % 2 = 1) then n / d + 1 else n / d

/-- The pattern nearest to `significand * 2 ^ exponent`. -/
def round (f : BinaryFormat) (significand : Nat) (exponent : Int) : Nat :=
  if significand = 0 then 0
  else
    let unit := max (exponent + bitLength significand - (f.fractionBits + 1 : Nat)) f.leastExponent
    let units :=
      if unit ≤ exponent then significand * 2 ^ (exponent - unit).toNat
      else roundQuotient significand (2 ^ (unit - exponent).toNat)
    min ((unit - f.leastExponent).toNat * 2 ^ f.fractionBits + units) f.infinity

end BinaryFormat

end ObjectDocument
