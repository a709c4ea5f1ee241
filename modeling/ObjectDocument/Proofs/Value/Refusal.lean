import ObjectDocument.Accessor
import ObjectDocument.Proofs.Outcome

/-!
# Values that are refused

A document value that is of no use for a slot, or for the representation of an element, is refused
with an error that says so.  Only the values of other libraries have errors of a sort of their own.
-/

namespace ObjectDocument

variable {α : Type} {label : String} {b : Bson} {cause : MappingError}

theorem readInt_error {low high : Int} {make : Int → α}
    (h : readInt label low high make b = .error cause) : cause = .unexpected label b := by
  unfold readInt at h
  cases hint : b.toInt? with
  | none =>
      rw [hint] at h
      exact (Except.error.inj h).symm
  | some n =>
      rw [hint] at h
      by_cases hrange : low ≤ n ∧ n < high
      · simp only [if_pos hrange] at h
        cases h
      · simp only [if_neg hrange] at h
        exact (Except.error.inj h).symm

theorem readDouble_error {make : Double → α} (h : readDouble label make b = .error cause) :
    cause = .unexpected label b := by
  unfold readDouble at h
  cases hdouble : b.toDouble? with
  | none =>
      rw [hdouble] at h
      exact (Except.error.inj h).symm
  | some d =>
      rw [hdouble] at h
      cases h

theorem readDate_error (h : readDate b = .error cause) : cause = .unexpected "datetime" b := by
  cases b <;> first | exact (Except.error.inj h).symm | cases h

theorem readDocument_error (h : readDocument b = .error cause) :
    cause = .unexpected "document" b := by
  cases b <;> first | exact (Except.error.inj h).symm | cases h

theorem readItems_error {read : Bson → Except MappingError α}
    (hread : ∀ b cause, read b = .error cause → cause.OfValue)
    (h : readItems read b = .error cause) : cause.OfValue := by
  cases b with
  | array items =>
      obtain ⟨item, -, hitem⟩ := Except.exists_of_mapM_eq_error h
      exact hread item cause hitem
  | _ =>
      cases h
      exact .conversion _

/-- The error of a value that is not read speaks of the value. -/
theorem SlotType.ofBson_error [ValueTypes] [LawfulValueTypes] {type : SlotType}
    (h : type.ofBson b = .error cause) : cause.OfValue := by
  induction type generalizing b cause with
  | byte | int16 | int32 | int64 =>
      rw [readInt_error h]
      exact .conversion _
  | single | double =>
      rw [readDouble_error h]
      exact .conversion _
  | boolean | string | objectId =>
      cases b <;> cases h
      all_goals exact .conversion _
  | character =>
      cases b with
      | string text =>
          rw [ofBson] at h
          split at h
          · cases h
          · cases h
            exact .conversion _
      | _ =>
          cases h
          exact .conversion _
  | dateTime =>
      rw [readDate_error h]
      exact .conversion _
  | document =>
      rw [readDocument_error h]
      exact .conversion _
  | any => cases h
  | moment =>
      rw [readDate_error (Except.map_eq_error_iff.1 h)]
      exact .conversion _
  | custom => exact LawfulValueTypes.ofBson_error h
  | option type ih =>
      cases b with
      | null | undefined => cases h
      | _ => exact ih (Except.map_eq_error_iff.1 h)
  | list type ih => exact readItems_error (fun _ _ => ih) h
  | fixed length type ih =>
      rw [ofBson] at h
      rcases Except.bind_eq_error_iff.1 h with h | ⟨items, -, h⟩
      · exact readItems_error (fun _ _ => ih) h
      · by_cases hlength : items.length = length
        · rw [dif_pos hlength] at h
          cases h
        · rw [dif_neg hlength] at h
          cases h
          exact .conversion _
  | map type ih =>
      rw [ofBson] at h
      rcases Except.bind_eq_error_iff.1 h with h | ⟨entries, -, h⟩
      · rw [readDocument_error h]
        exact .conversion _
      · obtain ⟨entry, -, hentry⟩ := Except.exists_of_mapM_eq_error (Except.map_eq_error_iff.1 h)
        exact ih (Except.map_eq_error_iff.1 hentry)

namespace ElementKind

variable {kind : ElementKind}

theorem coerce_error (h : kind.coerce b = .error cause) :
    cause = .unexpected (kind.text ++ " element") b := by
  unfold coerce at h
  cases hcoerce : kind.coerce? b with
  | none =>
      rw [hcoerce] at h
      exact (Except.error.inj h).symm
  | some coerced =>
      rw [hcoerce] at h
      cases h

end ElementKind

end ObjectDocument
