import ObjectDocument.Proofs.TypeExpr.Grammar
import ObjectDocument.Proofs.TypeExpr.Names

/-!
# Type expressions read back

What is written of a type expression lexes into its tokens, if its names are identifiers
(`lexes_chars_append`): a name is followed by the end of the text or by a symbol, so no name runs
into what comes after it, and the blank after a comma is dropped.  The grammar derives the
expression for its tokens, so the text is read as the expression again.  Any other name is not read
at all, because what is read has identifiers for names.  So a type expression reads back exactly if
its names are identifiers (`parse_text_eq_ok_iff`).
-/

namespace ObjectDocument.TypeExpr

theorem isIdentifier_iff {name : String} : Text.isIdentifier name ↔
    name.toList ≠ [] ∧ ∀ c ∈ name.toList, Text.isIdentifierChar c := by
  rw [Text.isIdentifier, Bool.and_eq_true, List.all_eq_true, Bool.not_eq_true',
    List.isEmpty_eq_false_iff]

theorem maximal_of_symbol {c : Char} (h : (symbol? c).isSome) (text : List Char) :
    ∀ next ∈ (c :: text).head?, ¬Text.isIdentifierChar next := by
  obtain ⟨token, htoken⟩ := Option.isSome_iff_exists.1 h
  intro next hnext
  cases hnext
  exact (not_blank_of_mem_symbols (symbol?_eq_some_iff.1 htoken)).2

theorem maximal_charsAfter {text : List Char}
    (maximal : ∀ c ∈ text.head?, ¬Text.isIdentifierChar c) (args : List TypeExpr) :
    ∀ c ∈ (charsAfter args ++ text).head?, ¬Text.isIdentifierChar c := by
  cases args with
  | nil => exact maximal
  | cons arg args =>
      rw [charsAfter]
      exact maximal_of_symbol rfl _

mutual
/-- What is written of a type expression lexes into its tokens, in front of any text that does not
go on with an identifier. -/
theorem lexes_chars_append : (expr : TypeExpr) →
    (∀ name ∈ expr.mentioned, Text.isIdentifier name) → {text : List Char} →
    {others : List Token} → (∀ c ∈ text.head?, ¬Text.isIdentifierChar c) →
    Lexes text others → Lexes (expr.chars ++ text) (expr.tokens ++ others)
  | .named name [], hnames, text, others, maximal, rest => by
      rw [mentioned, mentionedIn, List.forall_mem_singleton] at hnames
      obtain ⟨nonempty, chars⟩ := isIdentifier_iff.1 hnames
      rw [TypeExpr.chars, tokens]
      exact .ident nonempty chars maximal rest
  | .named name (arg :: args), hnames, text, others, _, rest => by
      rw [mentioned, mentionedIn, List.forall_mem_cons, List.forall_mem_append] at hnames
      obtain ⟨hname, harg, hargs⟩ := hnames
      obtain ⟨nonempty, chars⟩ := isIdentifier_iff.1 hname
      have hclose : Lexes ('>' :: text) (.closeAngle :: others) := .symbol (by decide) rest
      have hinner := lexes_chars_append arg harg
        (maximal_charsAfter (maximal_of_symbol rfl text) args)
        (lexes_charsAfter_append args hargs text hclose)
      have hopen : Lexes ('<' :: (arg.chars ++ (charsAfter args ++ '>' :: text)))
          (.openAngle :: (arg.tokens ++ (tokensAfter args ++ .closeAngle :: others))) :=
        .symbol (by decide) hinner
      have hall := Lexes.ident nonempty chars
        (maximal_of_symbol rfl _) hopen
      rw [TypeExpr.chars, tokens]
      simpa using hall
  | .array component, hnames, text, others, _, rest => by
      rw [mentioned] at hnames
      have hclose : Lexes (']' :: text) (.closeBracket :: others) := .symbol (by decide) rest
      have hinner := lexes_chars_append component hnames
        (maximal_of_symbol rfl text) hclose
      have hopen : Lexes ('[' :: (component.chars ++ ']' :: text))
          (.openBracket :: (component.tokens ++ .closeBracket :: others)) :=
        .symbol (by decide) hinner
      rw [TypeExpr.chars, tokens]
      simpa using hopen

/-- The arguments after the first, in front of the end of all arguments. -/
theorem lexes_charsAfter_append : (args : List TypeExpr) →
    (∀ name ∈ mentionedIn args, Text.isIdentifier name) → (text : List Char) →
    {others : List Token} → Lexes ('>' :: text) others →
    Lexes (charsAfter args ++ '>' :: text) (tokensAfter args ++ others)
  | [], _, text, others, rest => by
      rw [charsAfter, tokensAfter]
      exact rest
  | arg :: args, hnames, text, others, rest => by
      rw [mentionedIn, List.forall_mem_append] at hnames
      have hinner := lexes_chars_append arg hnames.1
        (maximal_charsAfter (maximal_of_symbol rfl text) args)
        (lexes_charsAfter_append args hnames.2 text rest)
      have hcomma : Lexes (',' :: ' ' :: (arg.chars ++ (charsAfter args ++ '>' :: text)))
          (.comma :: (arg.tokens ++ (tokensAfter args ++ others))) :=
        .symbol (by decide) (.blank (by decide) hinner)
      rw [charsAfter, tokensAfter]
      simpa using hcomma
end

/-- The text of a type expression of identifiers is read as the expression. -/
theorem parse_text {expr : TypeExpr} (h : ∀ name ∈ expr.mentioned, Text.isIdentifier name) :
    parse expr.text = .ok expr := by
  have hend : ∀ c ∈ ([] : List Char).head?, ¬Text.isIdentifierChar c := by simp
  have hlexes := lexes_chars_append expr h hend .nil
  rw [List.append_nil, List.append_nil] at hlexes
  have hread : read expr.text.toList = .ok expr := by
    refine read_eq_ok_iff_derives.2 ⟨expr.tokens, ?_, derives_tokens expr⟩
    rwa [text, String.toList_ofList]
  rw [parse, hread]
  rfl

/-- A type expression reads back from its text exactly if each of its names is a run of
alphanumeric characters and underscores that is not empty.  So whatever is read from a text reads
back from its own. -/
theorem parse_text_eq_ok_iff (expr : TypeExpr) :
    (parse expr.text = .ok expr ↔ ∀ name ∈ expr.mentioned,
      name ≠ "" ∧ ∀ c ∈ name.toList, Text.isAlphanumeric c ∨ c = '_') ∧
    ∀ source, parse source = .ok expr → parse expr.text = .ok expr := by
  have hidentifier (name : String) : Text.isIdentifier name ↔
      name ≠ "" ∧ ∀ c ∈ name.toList, Text.isAlphanumeric c ∨ c = '_' := by
    simp [isIdentifier_iff, Text.isIdentifierChar]
  simp only [← hidentifier]
  exact ⟨⟨isIdentifier_of_parse, parse_text⟩, fun _ h => parse_text (isIdentifier_of_parse h)⟩

/-- The name of an array type is read as an array. -/
example : parse (text (.named "[i32]" [])) = .ok (.array (.named "i32" [])) := by
  decide +kernel

end ObjectDocument.TypeExpr
