import Mathlib.Data.List.Perm.Basic
import Mathlib.Data.String.Basic
import ObjectDocument.Value.Convert

/-!
# Entries in the order of their keys

`sortEntries` keeps the last entry of each key and puts these in the order of their keys.  Where no
key comes twice nothing is lost, so entries that are in order are what any arrangement of them is
sorted to (`Ascending.sortEntries_eq_of_perm`).  Only the keys are looked at, so entries whose
values are related under the same keys are so after they are sorted (`Entrywise.sortEntries`).
-/

namespace ObjectDocument

variable {α β : Type} {key : String} {value : α} {entries order : List (String × α)}

def Ascending (entries : List (String × α)) : Prop :=
  entries.Pairwise fun entry later => entry.1 < later.1

theorem mem_insertSorted {entry : String × α} (h : entry ∈ insertSorted key value entries) :
    entry = (key, value) ∨ entry ∈ entries := by
  induction entries with
  | nil => exact .inl (List.mem_singleton.1 h)
  | cons first rest ih =>
      rw [insertSorted] at h
      by_cases hlt : key < first.1
      · rw [if_pos hlt] at h
        exact List.mem_cons.1 h
      · rw [if_neg hlt] at h
        by_cases heq : key = first.1
        · rw [if_pos heq] at h
          exact (List.mem_cons.1 h).imp_right (List.mem_cons_of_mem _)
        · rw [if_neg heq] at h
          rcases List.mem_cons.1 h with rfl | h
          · exact .inr List.mem_cons_self
          · exact (ih h).imp_right (List.mem_cons_of_mem _)

theorem Ascending.insert (h : Ascending entries) (key : String) (value : α) :
    Ascending (insertSorted key value entries) := by
  induction entries with
  | nil => exact List.pairwise_singleton _ _
  | cons first rest ih =>
      obtain ⟨hfirst, hrest⟩ := List.pairwise_cons.1 h
      rw [insertSorted]
      by_cases hlt : key < first.1
      · rw [if_pos hlt]
        refine List.pairwise_cons.2 ⟨fun later hlater => ?_, h⟩
        rcases List.mem_cons.1 hlater with rfl | hlater
        · exact hlt
        · exact hlt.trans (hfirst later hlater)
      · rw [if_neg hlt]
        by_cases heq : key = first.1
        · rw [if_pos heq]
          exact List.pairwise_cons.2 ⟨fun later hlater => heq ▸ hfirst later hlater, hrest⟩
        · rw [if_neg heq]
          refine List.pairwise_cons.2 ⟨fun later hlater => ?_, ih hrest⟩
          rcases mem_insertSorted hlater with rfl | hlater
          · exact lt_of_le_of_ne (not_lt.1 hlt) (Ne.symm heq)
          · exact hfirst later hlater

theorem ascending_sortEntries (entries : List (String × α)) : Ascending (sortEntries entries) := by
  have hfold (entries sorted : List (String × α)) (h : Ascending sorted) :
      Ascending
        (entries.foldl (fun sorted entry => insertSorted entry.1 entry.2 sorted) sorted) := by
    induction entries generalizing sorted with
    | nil => exact h
    | cons entry rest ih => exact ih _ (h.insert entry.1 entry.2)
  exact hfold entries [] List.Pairwise.nil

theorem mem_of_mem_sortEntries {entry : String × α} (h : entry ∈ sortEntries entries) :
    entry ∈ entries := by
  have hfold (entries sorted : List (String × α))
      (h : entry ∈ entries.foldl (fun sorted entry => insertSorted entry.1 entry.2 sorted) sorted) :
      entry ∈ sorted ∨ entry ∈ entries := by
    induction entries generalizing sorted with
    | nil => exact .inl h
    | cons first rest ih =>
        rcases ih _ h with h | h
        · rcases mem_insertSorted h with rfl | h
          · exact .inr List.mem_cons_self
          · exact .inl h
        · exact .inr (List.mem_cons_of_mem _ h)
  exact (hfold entries [] h).resolve_left (List.not_mem_nil)

theorem perm_insertSorted (h : key ∉ entries.map Prod.fst) :
    (insertSorted key value entries).Perm ((key, value) :: entries) := by
  induction entries with
  | nil => exact .refl _
  | cons first rest ih =>
      rw [List.map_cons, List.mem_cons, not_or] at h
      rw [insertSorted]
      by_cases hlt : key < first.1
      · rw [if_pos hlt]
      · rw [if_neg hlt, if_neg h.1]
        exact ((ih h.2).cons first).trans (.swap ..)

theorem perm_sortEntries (h : (entries.map Prod.fst).Nodup) :
    (sortEntries entries).Perm entries := by
  have hfold (entries sorted : List (String × α)) (h : ((sorted ++ entries).map Prod.fst).Nodup) :
      (entries.foldl (fun sorted entry => insertSorted entry.1 entry.2 sorted) sorted).Perm
        (sorted ++ entries) := by
    induction entries generalizing sorted with
    | nil => simp
    | cons entry rest ih =>
        have hmiddle : (sorted ++ entry :: rest).Perm (entry :: sorted ++ rest) :=
          List.perm_middle
        have hnodup := ((hmiddle.map Prod.fst).nodup_iff).1 h
        have hnew : entry.1 ∉ sorted.map Prod.fst := fun hmem =>
          (List.nodup_cons.1 hnodup).1 (by simp [hmem])
        have hinserted : (insertSorted entry.1 entry.2 sorted ++ rest).Perm
            (entry :: sorted ++ rest) := (perm_insertSorted hnew).append_right rest
        refine (ih _ (((hinserted.map Prod.fst).nodup_iff).2 hnodup)).trans ?_
        exact hinserted.trans hmiddle.symm
  exact hfold entries [] h

theorem Ascending.nodup (h : Ascending entries) : (entries.map Prod.fst).Nodup :=
  List.pairwise_map.2 (h.imp fun hlt => hlt.ne)

/-- Entries that are in order are what any arrangement of them is sorted to. -/
theorem Ascending.sortEntries_eq_of_perm (h : Ascending entries) (hperm : order.Perm entries) :
    sortEntries order = entries := by
  have hnodup : (order.map Prod.fst).Nodup := ((hperm.map Prod.fst).nodup_iff).2 h.nodup
  refine List.Perm.eq_of_pairwise (fun first second _ _ hlt hgt => ?_)
    (ascending_sortEntries order) h ((perm_sortEntries hnodup).trans hperm)
  exact absurd hlt (lt_asymm hgt)

abbrev Entrywise (R : α → β → Prop) : List (String × α) → List (String × β) → Prop :=
  List.Forall₂ fun entry other => entry.1 = other.1 ∧ R entry.2 other.2

namespace Entrywise

variable {R : α → β → Prop} {others : List (String × β)}

theorem keys_eq (h : Entrywise R entries others) :
    entries.map Prod.fst = others.map Prod.fst := by
  induction h with
  | nil => rfl
  | cons hentry _ ih => rw [List.map_cons, List.map_cons, hentry.1, ih]

theorem insertSorted {other : β} (h : Entrywise R entries others) (key : String)
    (hvalue : R value other) :
    Entrywise R (ObjectDocument.insertSorted key value entries)
      (ObjectDocument.insertSorted key other others) := by
  induction h with
  | nil => exact .cons ⟨rfl, hvalue⟩ .nil
  | @cons entry other entries others hentry hrest ih =>
      simp only [ObjectDocument.insertSorted, ← hentry.1]
      by_cases hlt : key < entry.1
      · rw [if_pos hlt, if_pos hlt]
        exact .cons ⟨rfl, hvalue⟩ (.cons hentry hrest)
      · rw [if_neg hlt, if_neg hlt]
        by_cases heq : key = entry.1
        · rw [if_pos heq, if_pos heq]
          exact .cons ⟨rfl, hvalue⟩ hrest
        · rw [if_neg heq, if_neg heq]
          exact .cons hentry ih

theorem sortEntries (h : Entrywise R entries others) :
    Entrywise R (ObjectDocument.sortEntries entries) (ObjectDocument.sortEntries others) := by
  refine List.rel_foldl (fun sorted sortedOthers hsorted entry other hentry => ?_)
    List.Forall₂.nil h
  rw [← hentry.1]
  exact Entrywise.insertSorted hsorted entry.1 hentry.2

end Entrywise

end ObjectDocument
