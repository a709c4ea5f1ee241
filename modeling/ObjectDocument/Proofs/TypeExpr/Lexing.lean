import ObjectDocument.Proofs.Outcome
import ObjectDocument.TypeExpr.Token

/-!
# What a text lexes into

`Lexes` says what the tokens of a text are without saying how they are found: blanks separate tokens
and are dropped, a symbol is a token, and an identifier is a run of identifier characters that does
not go on.  Scanning a text finds these tokens and nothing else (`scan?_eq_ok_iff`).

The scan looks at the kinds of characters in turn, and `Lexes` in no order.  They come to the same
because no character is of two kinds (`Text.not_isIdentifierChar_of_isBlank`,
`not_blank_of_mem_symbols`).
-/

namespace ObjectDocument

theorem Text.not_isIdentifierChar_of_isBlank {c : Char} (h : isBlank c) : ¬isIdentifierChar c := by
  obtain ⟨range, hrange, hlower, hupper⟩ := CodeRanges.holds_iff.1 h
  have hcodes : ∀ range ∈ blankRanges, ∀ code ∈ List.range' range.1 (range.2 + 1 - range.1),
      ¬isIdentifierChar (Char.ofNat code) := by
    decide +kernel
  have hcode : c.toNat ∈ List.range' range.1 (range.2 + 1 - range.1) := by
    rw [List.mem_range'_1]
    omega
  have hc := hcodes range hrange c.toNat hcode
  rwa [Char.ofNat_toNat] at hc

namespace TypeExpr

def symbols : List (Char × Token) :=
  [('<', .openAngle), ('>', .closeAngle), (',', .comma), ('[', .openBracket), (']', .closeBracket)]

/-- The tokens of a text. -/
inductive Lexes : List Char → List Token → Prop where
  | nil : Lexes [] []
  | blank {c : Char} {text : List Char} {tokens : List Token} (h : Text.isBlank c)
      (rest : Lexes text tokens) : Lexes (c :: text) tokens
  | symbol {c : Char} {token : Token} {text : List Char} {tokens : List Token}
      (h : (c, token) ∈ symbols) (rest : Lexes text tokens) : Lexes (c :: text) (token :: tokens)
  /-- An identifier is as long as it can be. -/
  | ident {name text : List Char} {tokens : List Token} (nonempty : name ≠ [])
      (chars : ∀ c ∈ name, Text.isIdentifierChar c)
      (maximal : ∀ c ∈ text.head?, ¬Text.isIdentifierChar c) (rest : Lexes text tokens) :
      Lexes (name ++ text) (.ident name :: tokens)

theorem symbol?_eq_some_iff {c : Char} {token : Token} :
    symbol? c = some token ↔ (c, token) ∈ symbols := by
  constructor
  · intro h
    unfold symbol? at h
    split at h <;> cases h <;> decide
  · intro h
    have hall : ∀ entry ∈ symbols, symbol? entry.1 = some entry.2 := by decide
    exact hall (c, token) h

theorem not_blank_of_mem_symbols {entry : Char × Token} (h : entry ∈ symbols) :
    ¬Text.isBlank entry.1 ∧ ¬Text.isIdentifierChar entry.1 := by
  have hall : ∀ entry ∈ symbols, ¬Text.isBlank entry.1 ∧ ¬Text.isIdentifierChar entry.1 := by
    decide +kernel
  exact hall entry h

theorem symbol?_eq_none_of_isIdentifierChar {c : Char} (h : Text.isIdentifierChar c) :
    symbol? c = none := by
  cases hsymbol : symbol? c with
  | none => rfl
  | some token => exact absurd h (not_blank_of_mem_symbols (symbol?_eq_some_iff.1 hsymbol)).2

section

variable {c : Char} {text : List Char} {tokens : List Token}

theorem joinIdent_of_not (h : ∀ c ∈ text.head?, ¬Text.isIdentifierChar c) :
    joinIdent c text.head? tokens = .ident [c] :: tokens := by
  have hnext : text.head?.any Text.isIdentifierChar = false := by
    cases htext : text.head? with
    | none => rfl
    | some next => simpa using h next htext
  unfold joinIdent
  rw [hnext]
  split <;> rfl

/-- A character of an identifier in front of a text lengthens the identifier that the text begins
with, or is one of its own. -/
theorem Lexes.joinIdent (hc : Text.isIdentifierChar c) (lexes : Lexes text tokens) :
    Lexes (c :: text) (joinIdent c text.head? tokens) := by
  by_cases hnext : ∀ next ∈ text.head?, ¬Text.isIdentifierChar next
  · rw [joinIdent_of_not hnext]
    exact .ident (List.cons_ne_nil c []) (by simpa using hc) hnext lexes
  · cases lexes with
    | nil => simp at hnext
    | blank h => simp [Text.not_isIdentifierChar_of_isBlank h] at hnext
    | symbol h => simp [(not_blank_of_mem_symbols h).2] at hnext
    | @ident name text tokens nonempty chars maximal rest =>
        have hjoined : TypeExpr.joinIdent c (name ++ text).head? (.ident name :: tokens) =
            .ident (c :: name) :: tokens := by
          obtain ⟨first, name, rfl⟩ := List.exists_cons_of_ne_nil nonempty
          simp [TypeExpr.joinIdent, chars first List.mem_cons_self]
        rw [hjoined]
        exact .ident (List.cons_ne_nil c name) (List.forall_mem_cons.2 ⟨hc, chars⟩) maximal rest

theorem lexes_of_scan? (h : scan? text = .ok tokens) : Lexes text tokens := by
  induction text generalizing tokens with
  | nil =>
      cases h
      exact .nil
  | cons c text ih =>
      rw [scan?] at h
      by_cases hblank : Text.isBlank c
      · rw [if_pos hblank] at h
        exact .blank hblank (ih h)
      · rw [if_neg hblank] at h
        cases hsymbol : symbol? c with
        | some token =>
            rw [hsymbol] at h
            obtain ⟨others, hothers, rfl⟩ := Except.map_eq_ok_iff.1 h
            exact .symbol (symbol?_eq_some_iff.1 hsymbol) (ih hothers)
        | none =>
            rw [hsymbol] at h
            by_cases hc : Text.isIdentifierChar c
            · simp only [if_pos hc] at h
              obtain ⟨others, hothers, rfl⟩ := Except.map_eq_ok_iff.1 h
              exact (ih hothers).joinIdent hc
            · simp only [if_neg hc] at h
              cases h

theorem scan?_cons_of_isIdentifierChar (hc : Text.isIdentifierChar c)
    (h : scan? text = .ok tokens) :
    scan? (c :: text) = .ok (joinIdent c text.head? tokens) := by
  have hblank : ¬Text.isBlank c := fun hblank => Text.not_isIdentifierChar_of_isBlank hblank hc
  simp only [scan?, if_neg hblank, symbol?_eq_none_of_isIdentifierChar hc, if_pos hc, h]
  rfl

/-- A run of identifier characters is scanned from its end, and comes to one identifier. -/
theorem scan?_append_of_isIdentifierChar {name : List Char} (nonempty : name ≠ [])
    (chars : ∀ c ∈ name, Text.isIdentifierChar c)
    (maximal : ∀ c ∈ text.head?, ¬Text.isIdentifierChar c) (h : scan? text = .ok tokens) :
    scan? (name ++ text) = .ok (.ident name :: tokens) := by
  induction name with
  | nil => exact absurd rfl nonempty
  | cons c name ih =>
      obtain ⟨hc, chars⟩ := List.forall_mem_cons.1 chars
      cases name with
      | nil =>
          rw [List.singleton_append, scan?_cons_of_isIdentifierChar hc h,
            joinIdent_of_not maximal]
      | cons next name =>
          have hrest := ih (List.cons_ne_nil next name) chars
          rw [List.cons_append, scan?_cons_of_isIdentifierChar hc hrest]
          simp [joinIdent, chars next List.mem_cons_self]

theorem Lexes.scan? (lexes : Lexes text tokens) : scan? text = .ok tokens := by
  induction lexes with
  | nil => rfl
  | blank h _ ih => rw [TypeExpr.scan?, if_pos h, ih]
  | symbol h _ ih =>
      simp only [TypeExpr.scan?, if_neg (not_blank_of_mem_symbols h).1, symbol?_eq_some_iff.2 h, ih]
      rfl
  | ident nonempty chars maximal _ ih =>
      exact scan?_append_of_isIdentifierChar nonempty chars maximal ih

/-- Scanning a text finds its tokens, and fails on a text that has none. -/
theorem scan?_eq_ok_iff : scan? text = .ok tokens ↔ Lexes text tokens :=
  ⟨lexes_of_scan?, Lexes.scan?⟩

end

end TypeExpr

end ObjectDocument
