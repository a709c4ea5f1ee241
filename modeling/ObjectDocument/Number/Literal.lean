/-!
# Numbers as text

A whole number is written with digits after an optional sign.  A real number may have a fraction and
an exponent too, or is a word for infinity or for no number; `isReal` recognises it and leaves its
value alone.
-/

namespace ObjectDocument.Literal

-- Powers are those of `Nat` and `Int` themselves, whatever algebra is at hand.
attribute [local instance (high)] instPowNat

/-- Whether a text begins with a minus sign, and the text after its sign. -/
def dropSign : List Char → Bool × List Char
  | '-' :: rest => (true, rest)
  | '+' :: rest => (false, rest)
  | text => (false, text)

def ofDigits? (text : List Char) : Option Nat :=
  if text ≠ [] ∧ text.all Char.isDigit then
    some (text.foldl (fun value c => 10 * value + (c.toNat - '0'.toNat)) 0)
  else none

def nat? : List Char → Option Nat
  | '+' :: rest => ofDigits? rest
  | text => ofDigits? text

def signed? (bits : Nat) (text : List Char) : Option Int := do
  let (negative, digits) := dropSign text
  let magnitude ← ofDigits? digits
  let value : Int := if negative then -magnitude else magnitude
  if -2 ^ (bits - 1) ≤ value ∧ value < 2 ^ (bits - 1) then some value else none

/-- Whether a text is empty or the exponent of a real number. -/
def isExponent : List Char → Bool
  | [] => true
  | c :: rest => (c == 'e' || c == 'E') && (ofDigits? (dropSign rest).2).isSome

def realWords : List (List Char) :=
  ["inf".toList, "infinity".toList, "nan".toList]

def isReal (text : List Char) : Bool :=
  let unsigned := (dropSign text).2
  let whole := unsigned.takeWhile Char.isDigit
  let (fraction, exponent) :=
    match unsigned.dropWhile Char.isDigit with
    | '.' :: rest => (rest.takeWhile Char.isDigit, rest.dropWhile Char.isDigit)
    | rest => ([], rest)
  realWords.contains (unsigned.map Char.toLower) ||
    (!(whole ++ fraction).isEmpty && isExponent exponent)

end ObjectDocument.Literal
