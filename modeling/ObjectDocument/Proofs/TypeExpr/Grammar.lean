import ObjectDocument.Error
import ObjectDocument.Proofs.TypeExpr.Lexing
import ObjectDocument.TypeExpr.Printer

/-!
# The grammar of type expressions

`Derives` is the grammar: a type is an identifier, an identifier with types as arguments, or a type
in brackets.  Reading accepts a text exactly if it lexes into tokens that the grammar derives, and
what it reads is what they derive (`parse_eq_ok_iff_derives`).

A reader keeps what is not finished on a stack.  What it took of the tokens before is written out of
the stack by `Frame.opened`, and nothing of it is lost: the tokens of a type that was read are those
that were taken and those that were left (`tokens_of_readType`).  The other way around, a reader
before the tokens of a type comes to stand after it (`readType_tokens`), unless an opening angle
follows, which would make arguments of what comes then.
-/

namespace ObjectDocument.TypeExpr

mutual
/-- The tokens are those of a type by the grammar. -/
inductive Derives : TypeExpr → List Token → Prop where
  | ident {name : String} : Derives (.named name []) [.ident name.toList]
  | arguments {name : String} {args : List TypeExpr} {tokens : List Token}
      (h : DerivesEach args tokens) :
      Derives (.named name args) (.ident name.toList :: .openAngle :: tokens ++ [.closeAngle])
  | array {component : TypeExpr} {tokens : List Token} (h : Derives component tokens) :
      Derives (.array component) (.openBracket :: tokens ++ [.closeBracket])

inductive DerivesEach : List TypeExpr → List Token → Prop where
  | last {arg : TypeExpr} {tokens : List Token} (h : Derives arg tokens) : DerivesEach [arg] tokens
  | more {arg : TypeExpr} {args : List TypeExpr} {tokens others : List Token}
      (h : Derives arg tokens) (rest : DerivesEach args others) :
      DerivesEach (arg :: args) (tokens ++ .comma :: others)
end

mutual
theorem derives_tokens : (expr : TypeExpr) → Derives expr expr.tokens
  | .named _ [] => .ident
  | .named name (arg :: args) => by
      rw [tokens]
      exact .arguments (derivesEach_tokens args arg (derives_tokens arg))
  | .array component => by
      rw [tokens]
      exact .array (derives_tokens component)

theorem derivesEach_tokens : (args : List TypeExpr) → (arg : TypeExpr) →
    Derives arg arg.tokens → DerivesEach (arg :: args) (arg.tokens ++ tokensAfter args)
  | [], arg, h => by
      rw [tokensAfter, List.append_nil]
      exact .last h
  | next :: args, arg, h => by
      rw [tokensAfter]
      exact .more h (derivesEach_tokens args next (derives_tokens next))
end

mutual
theorem Derives.eq_tokens {expr : TypeExpr} {found : List Token} :
    Derives expr found → found = expr.tokens
  | .ident => by rw [tokens]
  | .arguments h => by
      obtain ⟨arg, args, rfl, rfl⟩ := h.exists_eq_tokens
      simp only [tokens, List.cons_append]
  | .array h => by rw [tokens, h.eq_tokens]

theorem DerivesEach.exists_eq_tokens {exprs : List TypeExpr} {found : List Token} :
    DerivesEach exprs found →
      ∃ arg args, exprs = arg :: args ∧ found = arg.tokens ++ tokensAfter args
  | .last h => ⟨_, [], rfl, by rw [tokensAfter, List.append_nil, h.eq_tokens]⟩
  | .more h rest => by
      obtain ⟨next, args, rfl, rfl⟩ := rest.exists_eq_tokens
      exact ⟨_, _, rfl, by rw [tokensAfter, h.eq_tokens, List.cons_append]⟩
end

/-- The grammar derives one sequence of tokens for each type. -/
theorem derives_iff {expr : TypeExpr} {found : List Token} :
    Derives expr found ↔ found = expr.tokens :=
  ⟨Derives.eq_tokens, fun h => h ▸ derives_tokens expr⟩

/-! ### What was taken is not lost -/

def tokensBefore (args : List TypeExpr) : List Token :=
  args.flatMap fun arg => arg.tokens ++ [.comma]

theorem tokens_named_concat (name : String) (before : List TypeExpr) (last : TypeExpr) :
    tokens (.named name (before ++ [last])) =
      .ident name.toList :: .openAngle :: tokensBefore before ++ last.tokens ++ [.closeAngle] := by
  have hafter (before : List TypeExpr) (arg : TypeExpr) :
      arg.tokens ++ tokensAfter (before ++ [last]) =
        tokensBefore (arg :: before) ++ last.tokens := by
    induction before generalizing arg with
    | nil => simp [tokensAfter, tokensBefore]
    | cons next before ih =>
        rw [List.cons_append, tokensAfter, List.cons_append, ih next]
        simp [tokensBefore]
  cases before with
  | nil => simp [tokens, tokensAfter, tokensBefore]
  | cons arg before =>
      rw [List.cons_append, tokens]
      simp only [List.cons_append, hafter]

/-- The tokens that were taken of the types that are not finished. -/
def Frame.opened : List Frame → List Token
  | [] => []
  | .component :: frames => opened frames ++ [.openBracket]
  | .arguments name done :: frames =>
    opened frames ++ .ident name :: .openAngle :: tokensBefore done.reverse

section

variable {expr : TypeExpr}

mutual
/-- What is read has the tokens that were taken and those that were left. -/
theorem tokens_of_readType : (left : List Token) → (frames : List Frame) →
    readType frames left = .ok expr → expr.tokens = Frame.opened frames ++ left
  | left, frames, h => by
      unfold readType at h
      split at h
      · next rest =>
          rw [tokens_of_readType rest _ h]
          simp [Frame.opened]
      · next name rest =>
          rw [tokens_of_readType rest _ h]
          simp [Frame.opened, tokensBefore]
      · next name rest _ =>
          rw [tokens_of_readAfter rest frames _ h]
          simp [tokens]
      · cases h
  termination_by left => left.length

theorem tokens_of_readAfter : (left : List Token) → (frames : List Frame) → (read : TypeExpr) →
    readAfter read frames left = .ok expr → expr.tokens = Frame.opened frames ++ read.tokens ++ left
  | left, frames, read, h => by
      unfold readAfter at h
      split at h
      · cases h
        simp [Frame.opened]
      · cases h
      · next frames rest =>
          rw [tokens_of_readAfter rest frames _ h]
          simp [Frame.opened, tokens]
      · cases h
      · next name done frames rest =>
          rw [tokens_of_readType rest _ h]
          simp [Frame.opened, tokensBefore]
      · next name done frames rest =>
          rw [tokens_of_readAfter rest frames _ h, List.reverse_cons, tokens_named_concat]
          simp [Frame.opened]
      · cases h
  termination_by left => left.length
end

end

/-! ### Reading what the grammar derives -/

mutual
/-- A reader before the tokens of a type comes to stand after it. -/
theorem readType_tokens : (expr : TypeExpr) → (frames : List Frame) → (rest : List Token) →
    rest.head? ≠ some .openAngle →
      readType frames (expr.tokens ++ rest) = readAfter expr frames rest
  | .named name [], frames, rest, hrest => by
      rw [tokens, List.singleton_append, readType, String.ofList_toList]
      rintro others rfl
      exact hrest rfl
  | .named name (arg :: args), frames, rest, _ => by
      have hargs := readAfter_tokensAfter args name.toList [] arg frames rest
      rw [String.ofList_toList, List.reverse_nil, List.nil_append] at hargs
      rw [← hargs, ← readType_tokens arg _ _ (by cases args <;> simp [tokensAfter]), tokens]
      simp [readType]
  | .array component, frames, rest, _ => by
      have hcomponent := readType_tokens component (.component :: frames) (.closeBracket :: rest)
        (by simp)
      rw [readAfter] at hcomponent
      rw [← hcomponent, tokens]
      simp [readType]

/-- A reader after an argument comes to stand after the type that it is an argument of. -/
theorem readAfter_tokensAfter : (args : List TypeExpr) → (name : List Char) →
    (done : List TypeExpr) → (arg : TypeExpr) → (frames : List Frame) → (rest : List Token) →
    readAfter arg (.arguments name done :: frames) (tokensAfter args ++ .closeAngle :: rest) =
      readAfter (.named (String.ofList name) (done.reverse ++ arg :: args)) frames rest
  | [], name, done, arg, frames, rest => by
      rw [tokensAfter, List.nil_append, readAfter, List.reverse_cons]
  | next :: args, name, done, arg, frames, rest => by
      have hargs := readAfter_tokensAfter args name (arg :: done) next frames rest
      rw [List.reverse_cons, List.append_assoc, List.singleton_append] at hargs
      rw [← hargs, ← readType_tokens next _ _ (by cases args <;> simp [tokensAfter]), tokensAfter]
      simp [readAfter]
end

theorem readType_eq_ok_iff {left : List Token} {expr : TypeExpr} :
    readType [] left = .ok expr ↔ Derives expr left := by
  rw [derives_iff]
  constructor
  · exact fun h => (tokens_of_readType left [] h).symm
  · rintro rfl
    have hread := readType_tokens expr [] [] (by simp)
    rwa [List.append_nil] at hread

theorem read_eq_ok_iff_derives {source : List Char} {expr : TypeExpr} :
    read source = .ok expr ↔ ∃ tokens, Lexes source tokens ∧ Derives expr tokens := by
  simp only [← scan?_eq_ok_iff, ← readType_eq_ok_iff, read]
  cases scan? source with
  | ok tokens => simp
  | error c => simp

/-- A text is read as a type expression exactly if it lexes into tokens that the grammar derives for
it, so there is at most one.  Every other text is read to its end as well, or to what is wrong with
it, which is then the error of an invalid schema. -/
theorem parse_eq_ok_iff_derives (source : String) :
    (∀ expr, parse source = .ok expr ↔
      ∃ tokens, Lexes source.toList tokens ∧ Derives expr tokens) ∧
    ((∃ fault, parse source = .error (.invalidSchema (.expression source fault))) ↔
      ¬∃ expr tokens, Lexes source.toList tokens ∧ Derives expr tokens) := by
  simp only [← read_eq_ok_iff_derives, parse]
  cases read source.toList with
  | ok expr => simp [Except.mapError]
  | error fault => simp [Except.mapError]

/-- Arguments, brackets and the whole expression have to be complete. -/
example : ∀ source ∈ ["", "List<", "List<>", "[i32", "Map<String,>", "a b", "List<String>>",
    "Vec<&str>"], (parse source).isOk = false := by
  decide +kernel

end ObjectDocument.TypeExpr
