/-!
# Type expressions

A declaration refers to types by name: `List<String>`, `[i64]`, `Map<String, T>`.  A type
expression is such a reference before its names are looked up.
-/

namespace ObjectDocument

inductive TypeExpr where
  /-- A name with its type arguments, if it has any. -/
  | named (name : String) (args : List TypeExpr)
  | array (component : TypeExpr)
deriving Repr, Inhabited

namespace TypeExpr

mutual
def decEq : (a b : TypeExpr) → Decidable (a = b)
  | .named name args, .named name' args' =>
    if h : name = name' then
      match decEqList args args' with
      | isTrue h' => isTrue (by rw [h, h'])
      | isFalse h' => isFalse fun e => h' (by injection e)
    else isFalse fun e => h (by injection e)
  | .array component, .array component' =>
    match decEq component component' with
    | isTrue h => isTrue (by rw [h])
    | isFalse h => isFalse fun e => h (by injection e)
  | .named .., .array _ | .array _, .named .. => isFalse (by intro h; cases h)

def decEqList : (as bs : List TypeExpr) → Decidable (as = bs)
  | [], [] => isTrue rfl
  | a :: as, b :: bs =>
    match decEq a b, decEqList as bs with
    | isTrue h, isTrue h' => isTrue (by rw [h, h'])
    | isFalse h, _ => isFalse fun e => h (by injection e)
    | _, isFalse h => isFalse fun e => h (by injection e)
  | [], _ :: _ | _ :: _, [] => isFalse (by intro h; cases h)
end

instance : DecidableEq TypeExpr := decEq

end TypeExpr

end ObjectDocument
