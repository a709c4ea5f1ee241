import ObjectDocument.Text.GraphemeTable

/-!
# Clusters of characters

What a reader takes for one character may be several: a letter with its marks, a flag, a family of
joined pictographs.  `clusters` cuts a text between two characters wherever none of the extended
cluster rules joins them.  Every rule looks back no further than the cluster it would extend, so
`joins` is given that cluster, the nearest character first, and the next character.

A character may also not be seen at all: a filler that stands for a missing letter.  `showsAlone`
tells the characters that can be seen without the one before them.
-/

namespace ObjectDocument.Text

def joiner : Char := '\u200D'

def standsApart (c : Char) : Bool :=
  c == '\r' || c == '\n' || controlRanges.holds c.toNat

def isLeadingJamo (code : Nat) : Bool :=
  CodeRanges.holds [(0x1100, 0x115F), (0xA960, 0xA97C)] code

/-- Whether a character is a vowel of a Hangul syllable, or takes part in one as such. -/
def isVowelJamo (code : Nat) : Bool :=
  CodeRanges.holds [(0x1160, 0x11A7), (0xD7B0, 0xD7C6), (0x16D63, 0x16D63), (0x16D67, 0x16D6A)] code

def isTrailingJamo (code : Nat) : Bool :=
  CodeRanges.holds [(0x11A8, 0x11FF), (0xD7CB, 0xD7FB)] code

def isSyllable (code : Nat) : Bool :=
  0xAC00 ≤ code && code ≤ 0xD7A3

def isOpenSyllable (code : Nat) : Bool :=
  isSyllable code && (code - 0xAC00) % 28 == 0

def hangulJoins (last next : Nat) : Bool :=
  (isLeadingJamo last && (isLeadingJamo next || isVowelJamo next || isSyllable next)) ||
    ((isOpenSyllable last || isVowelJamo last) && (isVowelJamo next || isTrailingJamo next)) ||
    ((isSyllable last || isTrailingJamo last) && isTrailingJamo next)

def isExtender (c : Char) : Bool :=
  extendRanges.holds c.toNat

def isRegional (c : Char) : Bool :=
  0x1F1E6 ≤ c.toNat && c.toNat ≤ 0x1F1FF

def isPictograph (c : Char) : Bool :=
  pictographRanges.holds c.toNat

/-- Whether a cluster ends, nearest character first, in a consonant with marks after it of which
one at least is a linker. -/
def awaitsConsonant (linked : Bool) : List Char → Bool
  | [] => false
  | c :: before =>
    if conjunctLinkerRanges.holds c.toNat then awaitsConsonant true before
    else if (isExtender c && c != '\u200C') || c == joiner then awaitsConsonant linked before
    else linked && conjunctConsonantRanges.holds c.toNat

/-- Whether a cluster ends, nearest character first, in a pictograph with marks after it. -/
def endsPictograph (cluster : List Char) : Bool :=
  (cluster.dropWhile isExtender).head?.any isPictograph

/-- Whether the next character belongs to the cluster that ends in `last`, with the characters
before `last` in `earlier`, nearest first. -/
def joins (last : Char) (earlier : List Char) (next : Char) : Bool :=
  if standsApart last || standsApart next then last == '\r' && next == '\n'
  else
    hangulJoins last.toNat next.toNat || isExtender next || next == joiner ||
      spacingMarkRanges.holds next.toNat || prependRanges.holds last.toNat ||
      (conjunctConsonantRanges.holds next.toNat && awaitsConsonant false (last :: earlier)) ||
      (isPictograph next && last == joiner && endsPictograph earlier) ||
      (isRegional next && isRegional last && !earlier.head?.any isRegional)

/-- The clusters of the rest of a text, of which the first has begun with `last` and, nearest first,
`earlier`. -/
def clustersFrom (last : Char) (earlier : List Char) : List Char → List (List Char)
  | [] => [(last :: earlier).reverse]
  | next :: rest =>
    if joins last earlier next then clustersFrom next (last :: earlier) rest
    else (last :: earlier).reverse :: clustersFrom next [] rest

def clusters : List Char → List (List Char)
  | [] => []
  | c :: rest => clustersFrom c [] rest

theorem flatten_clustersFrom (last : Char) (earlier text : List Char) :
    (clustersFrom last earlier text).flatten = (last :: earlier).reverse ++ text := by
  induction text generalizing last earlier with
  | nil => simp [clustersFrom]
  | cons next rest ih =>
    by_cases h : joins last earlier next = true <;> simp [clustersFrom, h, ih]

@[simp] theorem flatten_clusters (text : List Char) : (clusters text).flatten = text := by
  cases text <;> simp [clusters, flatten_clustersFrom]

/-! ### Characters that show on their own -/

def fillerRanges : CodeRanges :=
  [(0x115F, 0x1160), (0x3164, 0x3164), (0xFFA0, 0xFFA0)]

def halfwidthMarkRanges : CodeRanges :=
  [(0xFF9E, 0xFF9F)]

def showsAlone (c : Char) : Bool :=
  !fillerRanges.holds c.toNat &&
    (!extendRanges.holds c.toNat || halfwidthMarkRanges.holds c.toNat)

end ObjectDocument.Text
