import ObjectDocument.TypeExpr.Basic
import ObjectDocument.TypeExpr.Token

/-!
# Reading type expressions

The grammar is `Type ::= ident | ident '<' Type (',' Type)* '>' | '[' Type ']'`.  A reader is
always in one of two situations: a type is due (`readType`), or a whole type has just been read
(`readAfter`).  What surrounds it is a stack of unfinished types, innermost first.  Each step takes
a token, so reading ends with the tokens.
-/

namespace ObjectDocument.TypeExpr

/-- Why a text is no type expression. -/
inductive Fault where
  /-- A character that no token can hold. -/
  | character (c : Char)
  | missingType
  /-- An argument was read, and neither another nor the end of the arguments follows. -/
  | missingSeparator
  /-- A component was read, and its bracket is not closed. -/
  | missingBracket
  /-- The expression is whole, and more follows. -/
  | trailing
deriving DecidableEq, Repr

def Fault.text : Fault → String
  | .character c => "unexpected character '" ++ c.toString ++ "'"
  | .missingType => "expected a type name or '['"
  | .missingSeparator => "expected ',' or '>'"
  | .missingBracket => "expected CloseBracket"
  | .trailing => "unexpected trailing input"

inductive Frame where
  /-- An array whose component is being read. -/
  | component
  /-- A name with the arguments read so far, the last one first. -/
  | arguments (name : List Char) (done : List TypeExpr)

mutual
def readType (frames : List Frame) : List Token → Except Fault TypeExpr
  | .openBracket :: rest => readType (.component :: frames) rest
  | .ident name :: .openAngle :: rest => readType (.arguments name [] :: frames) rest
  | .ident name :: rest => readAfter (.named (String.ofList name) []) frames rest
  | _ => .error .missingType

def readAfter (expr : TypeExpr) : List Frame → List Token → Except Fault TypeExpr
  | [], [] => .ok expr
  | [], _ :: _ => .error .trailing
  | .component :: frames, .closeBracket :: rest => readAfter (.array expr) frames rest
  | .component :: _, _ => .error .missingBracket
  | .arguments name done :: frames, .comma :: rest =>
    readType (.arguments name (expr :: done) :: frames) rest
  | .arguments name done :: frames, .closeAngle :: rest =>
    readAfter (.named (String.ofList name) (expr :: done).reverse) frames rest
  | .arguments .. :: _, _ => .error .missingSeparator
end

def read (source : List Char) : Except Fault TypeExpr :=
  match scan? source with
  | .ok tokens => readType [] tokens
  | .error c => .error (.character c)

end ObjectDocument.TypeExpr
