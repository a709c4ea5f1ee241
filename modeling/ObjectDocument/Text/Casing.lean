import ObjectDocument.Text.CaseTable

/-!
# Upper and lower case

The full case mappings of text.  One character can map to several, as the sharp s does in upper
case.  The only mapping that looks at its neighbours is the lower case of a capital sigma, which
has a form of its own at the end of a word: `lowerFrom` carries the characters already passed, the
nearest first, so that both sides of a sigma are at hand.
-/

namespace ObjectDocument.Text

def lowerChar (c : Char) : List Char :=
  if c.toNat < 128 then [c.toLower]
  else if c = '\u0130' then ['i', '\u0307']
  else [(lowerRuns.findSome? (·.image? c.toNat)).elim c Char.ofNat]

def upperChar (c : Char) : List Char :=
  if c.toNat < 128 then [c.toUpper]
  else match upperExpansions.lookup c.toNat with
    | some codes => codes.map Char.ofNat
    | none => [(upperRuns.findSome? (·.image? c.toNat)).elim c Char.ofNat]

def isCased (c : Char) : Bool :=
  if c.toNat < 128 then c.isAlpha else casedRanges.holds c.toNat

def isCaseIgnorable (c : Char) : Bool :=
  caseIgnorableRanges.holds c.toNat

def startsCased (text : List Char) : Bool :=
  (text.dropWhile isCaseIgnorable).head?.any isCased

/-- The lower case of a capital sigma between two texts, the one before it nearest first.  It takes
its final form after a cased character and before none. -/
def lowerSigma (before after : List Char) : Char :=
  if startsCased before && !startsCased after then '\u03C2' else '\u03C3'

def lowerFrom (before : List Char) : List Char → List Char
  | [] => []
  | c :: rest =>
    (if c = '\u03A3' then [lowerSigma before rest] else lowerChar c) ++ lowerFrom (c :: before) rest

def lower (text : List Char) : List Char :=
  lowerFrom [] text

def upper (text : List Char) : List Char :=
  text.flatMap upperChar

@[simp] theorem lower_nil : lower [] = [] := rfl

@[simp] theorem upper_nil : upper [] = [] := rfl

end ObjectDocument.Text
