import ObjectDocument.Proofs.Value.Identifier
import ObjectDocument.Value.Standard

/-!
# Lawfulness of the calendar and of identifiers

The dates of the calendar are those of moments told to the millisecond, and any other date is read
as an end of the calendar.  Of the moments that are read, only the last is told to the nanosecond,
and so it is the only one that does not convert back (`Moment.ofDate_toDate_ofDate_iff`).
Identifiers all do, in either form.
-/

namespace ObjectDocument

namespace Moment

abbrev IsDate (millis : Int64) : Prop :=
  range.1 ≤ millis.toInt / 1000 ∧ millis.toInt / 1000 ≤ range.2

variable {millis : Int64}

theorem toDate_ofDate_of_isDate (h : IsDate millis) : (ofDate millis).toDate = millis := by
  rw [ofDate, dif_pos h, toDate]
  have hmillis : millis.toInt / 1000 * 1000 +
      (((millis.toInt % 1000).toNat * 1000000 / 1000000 : Nat) : Int) = millis.toInt := by
    omega
  rw [hmillis, Int64.ofInt_toInt]

theorem ofDate_of_not_isDate (h : ¬ IsDate millis) :
    ofDate millis = first ∨ ofDate millis = last := by
  rw [ofDate, dif_neg h]
  by_cases hsign : millis.toInt < 0
  · exact .inl (if_pos hsign)
  · exact .inr (if_neg hsign)

theorem isDate_toDate_ofDate (millis : Int64) : IsDate (ofDate millis).toDate := by
  by_cases h : IsDate millis
  · rwa [toDate_ofDate_of_isDate h]
  · rcases ofDate_of_not_isDate h with h | h
    · rw [h]
      decide
    · rw [h]
      decide

theorem ofDate_toDate_ofDate_iff :
    ofDate (ofDate millis).toDate = ofDate millis ↔ ofDate millis ≠ last := by
  constructor
  · intro hreturns hlast
    rw [hlast] at hreturns
    exact absurd hreturns (by decide)
  · intro hlast
    by_cases h : IsDate millis
    · rw [toDate_ofDate_of_isDate h]
    · rw [(ofDate_of_not_isDate h).resolve_right hlast]
      decide

end Moment

namespace Uuid

variable {form : Form} {b : Bson} {cause : MappingError}

theorem ofBson_toBson (form : Form) (uuid : Uuid) : ofBson form (uuid.toBson form) = .ok uuid := by
  cases form with
  | text => simp [ofBson, toBson, readText?]
  | bytes => simp [ofBson, toBson, readBytes?]

theorem isMissing_toBson (form : Form) (uuid : Uuid) : (uuid.toBson form).isMissing = false := by
  cases form <;> rfl

theorem ofBson_error (h : ofBson form b = .error cause) : cause.OfValue := by
  simp only [ofBson] at h
  split at h
  · cases h
  · obtain rfl := Except.error.inj h
    exact .serialization _

end Uuid

instance : LawfulValueTypes where
  toDate_ofDate millis := Moment.toDate_ofDate_of_isDate (Moment.isDate_toDate_ofDate millis)
  exists_again := by
    intro name b uuid h
    simp only [ValueTypes.ofBson, ValueTypes.toBson] at h ⊢
    cases hform : Uuid.formOf? name with
    | none =>
        rw [hform] at h
        cases h
    | some form => exact ⟨_, uuid, rfl, Uuid.ofBson_toBson form uuid, rfl⟩
  isMissing_toBson := by
    intro name b written uuid _ hwritten _
    simp only [ValueTypes.toBson] at hwritten
    cases hform : Uuid.formOf? name with
    | none =>
        rw [hform] at hwritten
        cases hwritten
    | some form =>
        rw [hform] at hwritten
        cases hwritten
        exact Uuid.isMissing_toBson form uuid
  ofBson_error := by
    intro name b cause h
    simp only [ValueTypes.ofBson] at h
    cases hform : Uuid.formOf? name with
    | none =>
        rw [hform] at h
        cases h
        exact .serialization _
    | some form =>
        rw [hform] at h
        exact Uuid.ofBson_error h

end ObjectDocument
