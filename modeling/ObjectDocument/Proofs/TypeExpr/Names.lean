import ObjectDocument.Error
import ObjectDocument.Proofs.Outcome
import ObjectDocument.Proofs.Renaming.Lookup

/-!
# Names in a type expression

A name that is read from a text is an identifier, whatever the text is (`isIdentifier_of_parse`).
So nothing that a declaration refers to by name is an array type: the name of that begins with a
bracket.
-/

namespace ObjectDocument.TypeExpr

theorem isIdentifier_of_scan? {source : List Char} {tokens : List Token} {name : List Char}
    (h : scan? source = .ok tokens) (hname : .ident name ∈ tokens) :
    Text.isIdentifier (String.ofList name) := by
  induction source generalizing tokens name with
  | nil =>
      cases h
      cases hname
  | cons c rest ih =>
      rw [scan?] at h
      by_cases hblank : Text.isBlank c
      · rw [if_pos hblank] at h
        exact ih h hname
      rw [if_neg hblank] at h
      cases hsymbol : symbol? c with
      | some symbol =>
          rw [hsymbol] at h
          obtain ⟨others, hothers, rfl⟩ := Except.map_eq_ok_iff.1 h
          rcases List.mem_cons.1 hname with rfl | hname
          · unfold symbol? at hsymbol
            split at hsymbol <;> cases hsymbol
          · exact ih hothers hname
      | none =>
          rw [hsymbol] at h
          by_cases hc : Text.isIdentifierChar c
          · simp only [if_pos hc] at h
            obtain ⟨others, hothers, rfl⟩ := Except.map_eq_ok_iff.1 h
            have hsingle : Text.isIdentifier (String.ofList [c]) := by simp [Text.isIdentifier, hc]
            -- The character begins a name, or stands before the name that follows.
            unfold joinIdent at hname
            split at hname
            · next following others =>
                have hfollowing := ih hothers List.mem_cons_self
                split at hname
                · rcases List.mem_cons.1 hname with hname | hname
                  · cases hname
                    simp_all [Text.isIdentifier]
                  · exact ih hothers (List.mem_cons_of_mem _ hname)
                · rcases List.mem_cons.1 hname with hname | hname
                  · cases hname
                    exact hsingle
                  · exact ih hothers hname
            · rcases List.mem_cons.1 hname with hname | hname
              · cases hname
                exact hsingle
              · exact ih hothers hname
          · simp only [if_neg hc] at h
            cases h

def Frame.mentioned : Frame → List String
  | .component => []
  | .arguments name done => String.ofList name :: mentionedIn done

theorem mentionedIn_eq_flatMap (exprs : List TypeExpr) :
    mentionedIn exprs = exprs.flatMap mentioned := by
  induction exprs with
  | nil => rfl
  | cons expr rest ih => rw [mentionedIn, ih, List.flatMap_cons]

section

variable {good : String → Prop} {expr : TypeExpr}

mutual
/-- What is read has the names of the tokens and of what was read before. -/
theorem good_of_readType : (tokens : List Token) → (frames : List Frame) →
    (∀ name, .ident name ∈ tokens → good (String.ofList name)) →
    (∀ frame ∈ frames, ∀ name ∈ frame.mentioned, good name) →
    readType frames tokens = .ok expr → ∀ name ∈ expr.mentioned, good name
  | tokens, frames, htokens, hframes, h => by
      unfold readType at h
      split at h
      · next rest =>
          exact good_of_readType rest _ (fun name hname => htokens name (.tail _ hname))
            (List.forall_mem_cons.2 ⟨fun name hname => (by cases hname), hframes⟩) h
      · next name rest =>
          refine good_of_readType rest _ (fun name hname => htokens name (.tail _ (.tail _ hname)))
            (List.forall_mem_cons.2 ⟨fun found hfound => ?_, hframes⟩) h
          rw [Frame.mentioned, mentionedIn, List.mem_singleton] at hfound
          exact hfound ▸ htokens name (.head _)
      · next name rest _ =>
          refine good_of_readAfter rest frames _
            (fun name hname => htokens name (.tail _ hname)) hframes (fun found hfound => ?_) h
          rw [mentioned, mentionedIn, List.mem_singleton] at hfound
          exact hfound ▸ htokens name (.head _)
      · cases h
  termination_by tokens => tokens.length

theorem good_of_readAfter : (tokens : List Token) → (frames : List Frame) → (read : TypeExpr) →
    (∀ name, .ident name ∈ tokens → good (String.ofList name)) →
    (∀ frame ∈ frames, ∀ name ∈ frame.mentioned, good name) →
    (∀ name ∈ read.mentioned, good name) →
    readAfter read frames tokens = .ok expr → ∀ name ∈ expr.mentioned, good name
  | tokens, frames, read, htokens, hframes, hread, h => by
      unfold readAfter at h
      split at h
      · cases h
        exact hread
      · cases h
      · next rest =>
          exact good_of_readAfter rest _ _ (fun name hname => htokens name (.tail _ hname))
            (List.forall_mem_cons.1 hframes).2 (by rwa [mentioned]) h
      · cases h
      · next name done frames rest =>
          obtain ⟨hfirst, hframes⟩ := List.forall_mem_cons.1 hframes
          refine good_of_readType rest _ (fun name hname => htokens name (.tail _ hname))
            (List.forall_mem_cons.2 ⟨fun found hfound => ?_, hframes⟩) h
          simp only [Frame.mentioned, mentionedIn, List.mem_cons, List.mem_append] at hfound hfirst
          exact hfound.elim (fun h => hfirst found (.inl h))
            (fun h => h.elim (hread found) fun h => hfirst found (.inr h))
      · next name done frames rest =>
          obtain ⟨hfirst, hframes⟩ := List.forall_mem_cons.1 hframes
          refine good_of_readAfter rest _ _ (fun name hname => htokens name (.tail _ hname))
            hframes (fun found hfound => ?_) h
          simp only [Frame.mentioned, mentioned, mentionedIn_eq_flatMap, List.mem_cons,
            List.mem_flatMap, List.mem_reverse, exists_eq_or_imp] at hfound hfirst
          exact hfound.elim (fun h => hfirst found (.inl h))
            (fun h => h.elim (hread found) fun h => hfirst found (.inr h))
      · cases h
  termination_by tokens => tokens.length
end

end

theorem isIdentifier_of_parse {source : String} {expr : TypeExpr} (h : parse source = .ok expr) :
    ∀ name ∈ expr.mentioned, Text.isIdentifier name := by
  have hread : read source.toList = .ok expr := by
    unfold parse at h
    cases hread : read source.toList with
    | error fault =>
        rw [hread] at h
        cases h
    | ok found =>
        rw [hread] at h
        cases h
        rfl
  unfold read at hread
  cases hscan : scan? source.toList with
  | error c =>
      rw [hscan] at hread
      cases hread
  | ok tokens =>
      rw [hscan] at hread
      exact good_of_readType tokens [] (fun _ => isIdentifier_of_scan? hscan)
        (List.forall_mem_nil _) hread

end ObjectDocument.TypeExpr
