import ObjectDocument.Number.Double

/-!
# JSON values

The JSON form of documents and configurations.  Integers and floating point numbers stay apart, and
the members of an object stand in the order of their names.
-/

namespace ObjectDocument

inductive JsonValue where
  | null
  | boolean (value : Bool)
  | integer (value : Int)
  | double (value : Double)
  | string (text : String)
  | array (items : List JsonValue)
  | object (members : List (String × JsonValue))
deriving Repr, Inhabited

/-- The object of some members, in the order of their names. -/
def JsonValue.ofMembers (members : List (String × JsonValue)) : JsonValue :=
  .object (members.mergeSort fun a b => a.1 ≤ b.1)

end ObjectDocument
