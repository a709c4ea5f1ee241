/-!
# Base 64

Bytes as text, three at a time in four characters, the last ones filled up with equals signs.  Only
what `base64` writes is read back: a text that is short of equals signs, or whose last digit has
spare bits that are set, is not the text of any bytes.
-/

namespace ObjectDocument.Text

-- Powers are those of `Nat` and `Int` themselves, whatever algebra is at hand.
attribute [local instance (high)] instPowNat

def base64Digits : List Char :=
  "ABCDEFGHIJKLMNOPQRSTUVWXYZabcdefghijklmnopqrstuvwxyz0123456789+/".toList

def base64Digit (n shift : Nat) : Char :=
  base64Digits.getD (n / 64 ^ shift % 64) '='

def base64 : List UInt8 → List Char
  | [] => []
  | [a] =>
    let n := a.toNat * 0x10000
    [base64Digit n 3, base64Digit n 2, '=', '=']
  | [a, b] =>
    let n := a.toNat * 0x10000 + b.toNat * 0x100
    [base64Digit n 3, base64Digit n 2, base64Digit n 1, '=']
  | a :: b :: c :: rest =>
    let n := a.toNat * 0x10000 + b.toNat * 0x100 + c.toNat
    base64Digit n 3 :: base64Digit n 2 :: base64Digit n 1 :: base64Digit n 0 :: base64 rest

def bytesOfDigits : List Nat → List UInt8
  | a :: b :: c :: d :: rest =>
    let n := ((a * 64 + b) * 64 + c) * 64 + d
    UInt8.ofNat (n / 0x10000) :: UInt8.ofNat (n / 0x100) :: UInt8.ofNat n :: bytesOfDigits rest
  | [a, b, c] =>
    let n := (a * 64 + b) * 64 + c
    [UInt8.ofNat (n / 0x400), UInt8.ofNat (n / 0x4)]
  | [a, b] => [UInt8.ofNat ((a * 64 + b) / 0x10)]
  | _ => []

def bytesOfBase64? (text : List Char) : Option (List UInt8) := do
  let digits ← (text.filter (· != '=')).mapM base64Digits.idxOf?
  let bytes := bytesOfDigits digits
  if base64 bytes = text then some bytes else none

end ObjectDocument.Text
