import ObjectDocument.Text.Cluster
import ObjectDocument.TypeKey

/-!
# Types as declared

A declared type is a reference to a base type with arguments, a type variable of the type that
declares it, or an array.  An array carries the key of its erased form too, because that is a type
of the schema in its own right.
-/

namespace ObjectDocument

inductive GenericType where
  /-- A base type with its arguments, of which a raw reference has none. -/
  | applied (base : TypeKey) (args : List GenericType)
  | var (name : String)
  /-- An array, with the array type of the erased component. -/
  | array (component : GenericType) (erased : TypeKey)
deriving Repr, Inhabited

namespace GenericType

mutual
def decEq : (a b : GenericType) → Decidable (a = b)
  | .applied base args, .applied base' args' =>
    if h : base = base' then
      match decEqList args args' with
      | isTrue h' => isTrue (by rw [h, h'])
      | isFalse h' => isFalse fun e => h' (by injection e)
    else isFalse fun e => h (by injection e)
  | .var name, .var name' =>
    if h : name = name' then isTrue (by rw [h]) else isFalse fun e => h (by injection e)
  | .array component erased, .array component' erased' =>
    if h : erased = erased' then
      match decEq component component' with
      | isTrue h' => isTrue (by rw [h, h'])
      | isFalse h' => isFalse fun e => h' (by injection e)
    else isFalse fun e => h (by injection e)
  | .applied .., .var _ | .applied .., .array .. | .var _, .applied .. | .var _, .array ..
  | .array .., .applied .. | .array .., .var _ => isFalse (by intro h; cases h)

def decEqList : (as bs : List GenericType) → Decidable (as = bs)
  | [], [] => isTrue rfl
  | a :: as, b :: bs =>
    match decEq a b, decEqList as bs with
    | isTrue h, isTrue h' => isTrue (by rw [h, h'])
    | isFalse h, _ => isFalse fun e => h (by injection e)
    | _, isFalse h => isFalse fun e => h (by injection e)
  | [], _ :: _ | _ :: _, [] => isFalse (by intro h; cases h)
end

instance : DecidableEq GenericType := decEq

/-- The full form in which messages show a key. -/
def describeKey (key : TypeKey) : String :=
  "TypeKey(" ++ toString key.index ++ ")"

def base? : GenericType → Option TypeKey
  | .applied base _ => some base
  | _ => none

def variableName? : GenericType → Option String
  | .var name => some name
  | _ => none

def isVariable (declared : GenericType) : Bool :=
  declared.variableName?.isSome

/-- A name in quotes, with what does not show on its own spelled out. -/
def quoted (name : String) : String :=
  let shown := name.toList.flatMap fun c =>
    if Text.showsAlone c then [c] else "\\u\x7b".toList ++ Nat.toDigits 16 c.toNat ++ ['}']
  "\"" ++ String.ofList shown ++ "\""

mutual
def describe : GenericType → String
  | .applied base args =>
    "Class \x7b base: " ++ describeKey base ++ ", args: [" ++ describeList args ++ "] \x7d"
  | .var name => "Variable(" ++ quoted name ++ ")"
  | .array component erased =>
    "Array \x7b component: " ++ describe component ++ ", erased: " ++ describeKey erased ++ " \x7d"

def describeList : List GenericType → String
  | [] => ""
  | [declared] => describe declared
  | declared :: rest => describe declared ++ ", " ++ describeList rest
end

end GenericType

end ObjectDocument
