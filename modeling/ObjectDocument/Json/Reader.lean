import ObjectDocument.Text.Hex

/-!
# Reading JSON

A JSON text is read into a tree that keeps what a reader of settings needs.  A number is checked for
its form and forgotten.  A string is kept as code units, because a text may hold one half of a
surrogate pair: such a string is well formed where it is passed over, and only fails where its text
is asked for, by `decodeUnits?`.
-/

namespace ObjectDocument

inductive JsonText where
  | null
  | boolean (value : Bool)
  | number
  | string (units : List Nat)
  | array (items : List JsonText)
  | object (members : List (List Nat × JsonText))
deriving Repr, Inhabited

namespace JsonText

def isSpace (c : Char) : Bool :=
  c == ' ' || c == '\n' || c == '\r' || c == '\t'

def skipSpace (text : List Char) : List Char :=
  text.dropWhile isSpace

def skipWord? : List Char → List Char → Option (List Char)
  | [], text => some text
  | c :: word, d :: text => if c = d then skipWord? word text else none
  | _ :: _, [] => none

/-- The text after the digits in front, of which there has to be one. -/
def skipDigits? (text : List Char) : Option (List Char) :=
  if text.head?.any Char.isDigit then some (text.dropWhile Char.isDigit) else none

/-- The text after the whole part of a number, which begins with zero only if it is zero. -/
def skipWhole? : List Char → Option (List Char)
  | '0' :: rest => if rest.head?.any Char.isDigit then none else some rest
  | text => skipDigits? text

def skipFraction? : List Char → Option (List Char)
  | '.' :: rest => skipDigits? rest
  | text => some text

def skipExponent? : List Char → Option (List Char)
  | c :: rest =>
    if c = 'e' ∨ c = 'E' then
      match rest with
      | '+' :: rest | '-' :: rest => skipDigits? rest
      | rest => skipDigits? rest
    else some (c :: rest)
  | [] => some []

def skipNumber? (text : List Char) : Option (List Char) :=
  let unsigned := match text with
    | '-' :: rest => rest
    | text => text
  skipWhole? unsigned >>= skipFraction? >>= skipExponent?

def hexUnit? (a b c d : Char) : Option Nat := do
  let a ← Text.hexDigit? a
  let b ← Text.hexDigit? b
  let c ← Text.hexDigit? c
  let d ← Text.hexDigit? d
  return ((a * 16 + b) * 16 + c) * 16 + d

def escaped? : Char → Option Char
  | '"' => some '"'
  | '\\' => some '\\'
  | '/' => some '/'
  | 'b' => some '\x08'
  | 'f' => some '\x0C'
  | 'n' => some '\n'
  | 'r' => some '\r'
  | 't' => some '\t'
  | _ => none

def readString? : List Char → Option (List Nat × List Char)
  | '"' :: rest => some ([], rest)
  | '\\' :: 'u' :: a :: b :: c :: d :: rest => do
    let unit ← hexUnit? a b c d
    let (units, rest) ← readString? rest
    return (unit :: units, rest)
  | '\\' :: c :: rest => do
    let c ← escaped? c
    let (units, rest) ← readString? rest
    return (c.toNat :: units, rest)
  | c :: rest =>
    if c.toNat < 32 ∨ c = '\\' then none
    else do
      let (units, rest) ← readString? rest
      return (c.toNat :: units, rest)
  | [] => none

mutual
/-- Reads a value.  The first argument bounds the depth of calls. -/
def readValue? : Nat → List Char → Option (JsonText × List Char)
  | 0, _ => none
  | fuel + 1, text =>
    match skipSpace text with
    | '{' :: rest =>
      match skipSpace rest with
      | '}' :: rest => some (.object [], rest)
      | rest => (readMembers? fuel rest).map fun (members, rest) => (.object members, rest)
    | '[' :: rest =>
      match skipSpace rest with
      | ']' :: rest => some (.array [], rest)
      | rest => (readItems? fuel rest).map fun (items, rest) => (.array items, rest)
    | '"' :: rest => (readString? rest).map fun (units, rest) => (.string units, rest)
    | 'n' :: rest => (skipWord? "ull".toList rest).map (.null, ·)
    | 't' :: rest => (skipWord? "rue".toList rest).map (.boolean true, ·)
    | 'f' :: rest => (skipWord? "alse".toList rest).map (.boolean false, ·)
    | text => (skipNumber? text).map (.number, ·)

def readMembers? : Nat → List Char → Option (List (List Nat × JsonText) × List Char)
  | 0, _ => none
  | fuel + 1, text =>
    match skipSpace text with
    | '"' :: rest => do
      let (name, rest) ← readString? rest
      match skipSpace rest with
      | ':' :: rest =>
        let (value, rest) ← readValue? fuel rest
        match skipSpace rest with
        | ',' :: rest =>
          let (members, rest) ← readMembers? fuel rest
          return ((name, value) :: members, rest)
        | '}' :: rest => return ([(name, value)], rest)
        | _ => none
      | _ => none
    | _ => none

def readItems? : Nat → List Char → Option (List JsonText × List Char)
  | 0, _ => none
  | fuel + 1, text => do
    let (item, rest) ← readValue? fuel text
    match skipSpace rest with
    | ',' :: rest =>
      let (items, rest) ← readItems? fuel rest
      return (item :: items, rest)
    | ']' :: rest => return ([item], rest)
    | _ => none
end

/-- Reads a text that holds one value and nothing else.  An item and its array are two calls for
one bracket, so twice the length bounds the depth. -/
def ofString? (text : String) : Option JsonText := do
  let chars := text.toList
  let (value, rest) ← readValue? (2 * chars.length + 2) chars
  if (skipSpace rest).isEmpty then some value else none

def isHighHalf (unit : Nat) : Bool :=
  0xD800 ≤ unit && unit ≤ 0xDBFF

def isLowHalf (unit : Nat) : Bool :=
  0xDC00 ≤ unit && unit ≤ 0xDFFF

/-- The text of a string, unless half of a surrogate pair stands alone in it. -/
def decodeUnits? : List Nat → Option (List Char)
  | [] => some []
  | [unit] => if isHighHalf unit || isLowHalf unit then none else some [Char.ofNat unit]
  | unit :: next :: rest =>
    if isHighHalf unit then
      if isLowHalf next then
        (Char.ofNat (0x10000 + (unit - 0xD800) * 0x400 + (next - 0xDC00)) :: ·) <$>
          decodeUnits? rest
      else none
    else if isLowHalf unit then none
    else (Char.ofNat unit :: ·) <$> decodeUnits? (next :: rest)

end JsonText

end ObjectDocument
