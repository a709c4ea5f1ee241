import ObjectDocument.TypeExpr.Token
import ObjectDocument.TypeExpr.Basic

/-!
# Writing type expressions

A type expression is written with a comma and a space between arguments.  `tokens` is what is
written less the blanks, and stands beside `chars` as the form that a reader sees.
-/

namespace ObjectDocument.TypeExpr

mutual
def chars : TypeExpr → List Char
  | .named name [] => name.toList
  | .named name (arg :: args) => name.toList ++ '<' :: chars arg ++ charsAfter args ++ ['>']
  | .array component => '[' :: chars component ++ [']']

def charsAfter : List TypeExpr → List Char
  | [] => []
  | arg :: args => ',' :: ' ' :: chars arg ++ charsAfter args
end

mutual
def tokens : TypeExpr → List Token
  | .named name [] => [.ident name.toList]
  | .named name (arg :: args) =>
    .ident name.toList :: .openAngle :: tokens arg ++ tokensAfter args ++ [.closeAngle]
  | .array component => .openBracket :: tokens component ++ [.closeBracket]

def tokensAfter : List TypeExpr → List Token
  | [] => []
  | arg :: args => .comma :: tokens arg ++ tokensAfter args
end

def text (expr : TypeExpr) : String :=
  String.ofList expr.chars

end ObjectDocument.TypeExpr
