import ObjectDocument.Text.Hex

/-!
# Universally unique identifiers

Sixteen bytes, written as five groups of hexadecimal digits with hyphens between them.  The digits
are also read without hyphens, and the groups in braces or after a resource name.
-/

namespace ObjectDocument

structure Uuid where
  bytes : List UInt8
  size : bytes.length = 16
deriving DecidableEq, Repr

namespace Uuid

def ofBytes? (bytes : List UInt8) : Option Uuid :=
  if size : bytes.length = 16 then some ⟨bytes, size⟩ else none

/-- The identifier of sixteen pairs of digits. -/
def ofDigits? (digits : List Char) : Option Uuid :=
  Text.bytesOfHex? digits >>= ofBytes?

def dropHyphens? : List Nat → List Char → Option (List Char)
  | [], _ => none
  | [last], text => if text.length = last then some text else none
  | group :: groups, text =>
    match text.drop group with
    | '-' :: rest => (text.take group ++ ·) <$> dropHyphens? groups rest
    | _ => none

def ofGroups? (text : List Char) : Option Uuid :=
  dropHyphens? [8, 4, 4, 4, 12] text >>= ofDigits?

def inBraces? (text : List Char) : Option (List Char) :=
  if text.head? = some '\x7b' ∧ text.getLast? = some '\x7d' then some (text.drop 1).dropLast
  else none

def resourceName : List Char :=
  "urn:uuid:".toList

def afterName? (text : List Char) : Option (List Char) :=
  if (text.take resourceName.length).map Char.toLower = resourceName then
    some (text.drop resourceName.length)
  else none

/-- Reads an identifier in any of its forms. -/
def parse? (text : String) : Option Uuid :=
  let chars := text.toList
  if chars.length = 32 then ofDigits? chars
  else if chars.length = 36 then ofGroups? chars
  else if chars.length = 38 then inBraces? chars >>= ofGroups?
  else if chars.length = 45 then afterName? chars >>= ofGroups?
  else none

def text (uuid : Uuid) : String :=
  let group (start size : Nat) : List Char := Text.hexOfBytes ((uuid.bytes.drop start).take size)
  String.ofList (['-'].intercalate [group 0 4, group 4 2, group 6 2, group 8 2, group 10 6])

end Uuid

end ObjectDocument
