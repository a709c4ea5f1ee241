import ObjectDocument.Text.Characters

/-!
# Tokens of a type expression

A type expression is written with identifiers and five symbols; blanks separate them and are
dropped.  `scan?` reads a text from its end: whether a character of an identifier begins a token or
lengthens the one after it shows in the next character alone, so no run has to be cut off first.
-/

namespace ObjectDocument.TypeExpr

inductive Token where
  | ident (name : List Char)
  | openAngle
  | closeAngle
  | comma
  | openBracket
  | closeBracket
deriving DecidableEq, Repr

def symbol? : Char → Option Token
  | '<' => some .openAngle
  | '>' => some .closeAngle
  | ',' => some .comma
  | '[' => some .openBracket
  | ']' => some .closeBracket
  | _ => none

/-- Puts an identifier character in front of the tokens of the text after it, of which the first
character is `next`. -/
def joinIdent (c : Char) (next : Option Char) : List Token → List Token
  | .ident name :: rest =>
    if next.any Text.isIdentifierChar then .ident (c :: name) :: rest
    else .ident [c] :: .ident name :: rest
  | tokens => .ident [c] :: tokens

def scan? : List Char → Except Char (List Token)
  | [] => .ok []
  | c :: rest =>
    if Text.isBlank c then scan? rest
    else match symbol? c with
      | some token => (token :: ·) <$> scan? rest
      | none =>
        if Text.isIdentifierChar c then joinIdent c rest.head? <$> scan? rest else .error c

end ObjectDocument.TypeExpr
