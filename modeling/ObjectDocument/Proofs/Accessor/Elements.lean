import ObjectDocument.Proofs.Value.Normal
import ObjectDocument.Schema.Basic

/-!
# Elements of arrays

An array accessor brings elements to a representation.  It reads numbers as the slots of numbers do.
What a slot of the declared element type holds is written in that representation already, so that
reading and writing leave it as it is (`coerceArray_toBson`).  A slot that holds one element for
another type has no such warrant: of 64-bit integers read as doubles, some are rounded out of their
range.
-/

namespace ObjectDocument

namespace SlotType

/-- The scalar that the values of a slot type are of, if arrays of that scalar have a representation
of their own.  A value that may be missing counts like the value. -/
def scalar? : SlotType → Option TypeKey
  | .byte => some .byte
  | .int16 => some .int16
  | .int32 => some .int32
  | .int64 => some .int64
  | .single => some .float
  | .double => some .double
  | .boolean => some .boolean
  | .character => some .char
  | .string => some .string
  | .option type => type.scalar?
  | _ => none

def scalars : List TypeKey :=
  [.byte, .int16, .int32, .int64, .float, .double, .boolean, .char, .string]

def kind : SlotType → ElementKind
  | .byte | .int16 | .int32 => .int32
  | .int64 => .int64
  | .single | .double => .double
  | .boolean => .boolean
  | .character | .string => .string
  | .option type => type.kind
  | _ => .any

def Represents (type : SlotType) (element : TypeKey) : Prop :=
  type.scalar? = some element ∨ element ∉ scalars

def HoldsArray (element : TypeKey) : SlotType → Prop
  | .list type | .fixed _ type => type.Represents element
  | .option type => type.HoldsArray element
  | _ => False

instance (type : SlotType) (element : TypeKey) : Decidable (type.Represents element) :=
  inferInstanceAs (Decidable (_ ∨ _))

instance decidableHoldsArray (element : TypeKey) : (type : SlotType) →
    Decidable (type.HoldsArray element)
  | .list type | .fixed _ type => inferInstanceAs (Decidable (type.Represents element))
  | .option type => decidableHoldsArray element type
  | .byte | .int16 | .int32 | .int64 | .single | .double | .boolean | .character | .string
  | .objectId | .dateTime | .document | .any | .moment | .custom _ | .map _ =>
    .isFalse id

end SlotType

namespace Schema

variable {schema : Schema} {key : TypeKey}

theorem elementKind_eq_kind {type : SlotType} (h : type.scalar? = some (schema.boxed key)) :
    schema.elementKind key = type.kind := by
  induction type with
  | option type ih => exact ih h
  | byte | int16 | int32 | int64 | single | double | boolean | character | string =>
      rw [elementKind, ← Option.some.inj h]
      rfl
  | _ => cases h

theorem elementKind_eq_any (h : schema.boxed key ∉ SlotType.scalars) :
    schema.elementKind key = .any := by
  simp only [SlotType.scalars, List.mem_cons, List.not_mem_nil, or_false, not_or] at h
  simp [elementKind, h]

end Schema

theorem clampInt64_mem (n : Int) : -2 ^ 63 ≤ clampInt64 n ∧ clampInt64 n < 2 ^ 63 := by
  unfold clampInt64
  omega

theorem Bson.toInt?_mem {b : Bson} {n : Int} (h : b.toInt? = some n) :
    -2 ^ 63 ≤ n ∧ n < 2 ^ 63 := by
  cases b with
  | int32 value =>
      cases h
      have hle := Int32.le_toInt value
      have hlt := Int32.toInt_lt value
      omega
  | int64 value =>
      cases h
      exact ⟨Int64.le_toInt value, Int64.toInt_lt value⟩
  | double value =>
      obtain ⟨k, -, rfl⟩ := Option.map_eq_some_iff.1 h
      exact clampInt64_mem k
  | _ => cases h

namespace ElementKind

theorem coerce_null (kind : ElementKind) : kind.coerce .null = .ok .null := by
  cases kind <;> rfl

theorem coerce_any (value : Bson) : ElementKind.any.coerce value = .ok value := by
  cases value <;> rfl

section

variable {value : Bson} (h : value ≠ .null)

include h

theorem coerce_int32_eq_readInt :
    ElementKind.int32.coerce value =
      readInt "Int32 element" (-2 ^ 31) (2 ^ 31) (fun n => .int32 (Int32.ofInt n)) value := by
  have hcoerce : ElementKind.int32.coerce? value = value.toInt?.bind fun n =>
      if -2 ^ 31 ≤ n ∧ n < 2 ^ 31 then some (.int32 (Int32.ofInt n)) else none := by
    cases value with
    | null => exact absurd rfl h
    | _ => rfl
  rw [coerce, hcoerce, readInt]
  cases value.toInt? with
  | none => rfl
  | some n =>
      by_cases hrange : -2 ^ 31 ≤ n ∧ n < 2 ^ 31
      · simp only [Option.bind_some, if_pos hrange]
      · simp only [Option.bind_some, if_neg hrange]
        rfl

theorem coerce_int64_eq_readInt :
    ElementKind.int64.coerce value =
      readInt "Int64 element" (-2 ^ 63) (2 ^ 63) (fun n => .int64 (Int64.ofInt n)) value := by
  have hcoerce : ElementKind.int64.coerce? value =
      value.toInt?.map fun n => .int64 (Int64.ofInt n) := by
    cases value with
    | null => exact absurd rfl h
    | _ => rfl
  rw [coerce, hcoerce, readInt]
  cases hint : value.toInt? with
  | none => rfl
  | some n => exact (if_pos (Bson.toInt?_mem hint)).symm

theorem coerce_double_eq_readDouble :
    ElementKind.double.coerce value = readDouble "Double element" .double value := by
  have hcoerce : ElementKind.double.coerce? value = value.toDouble?.map .double := by
    cases value with
    | null => exact absurd rfl h
    | _ => rfl
  rw [coerce, hcoerce, readDouble]
  cases value.toDouble? <;> rfl

end

theorem coerce_int32 (n : Int32) : ElementKind.int32.coerce (.int32 n) = .ok (.int32 n) := by
  rw [coerce_int32_eq_readInt (by simp), readInt_eq_ok_iff]
  exact ⟨n.toInt, rfl, Int32.le_toInt n, Int32.toInt_lt n, by rw [Int32.ofInt_toInt]⟩

theorem coerce_int64 (n : Int64) : ElementKind.int64.coerce (.int64 n) = .ok (.int64 n) := by
  rw [coerce_int64_eq_readInt (by simp), readInt_eq_ok_iff]
  exact ⟨n.toInt, rfl, Int64.le_toInt n, Int64.toInt_lt n, by rw [Int64.ofInt_toInt]⟩

variable [ValueTypes] {schema : Schema} {key : TypeKey} {type : SlotType} {value : type.Carrier}
  {values : List type.Carrier} {written : Bson}

theorem coerce_kind_toBson (h : type.scalar?.isSome) (hwritten : type.toBson value = .ok written) :
    type.kind.coerce written = .ok written := by
  induction type with
  | option type ih =>
      cases value with
      | none =>
          cases hwritten
          exact coerce_null _
      | some value => exact ih h hwritten
  | byte | int16 | int32 =>
      cases hwritten
      exact coerce_int32 _
  | int64 =>
      cases hwritten
      exact coerce_int64 value
  | single | double | boolean | character | string =>
      cases hwritten
      rfl
  | _ => cases h

theorem coerce_toBson (h : type.Represents (schema.boxed key))
    (hwritten : type.toBson value = .ok written) :
    (schema.elementKind key).coerce written = .ok written := by
  rcases h with h | h
  · rw [Schema.elementKind_eq_kind h]
    exact coerce_kind_toBson (by simp [h]) hwritten
  · rw [Schema.elementKind_eq_any h]
    exact coerce_any _

theorem coerceArray_mapM_toBson (h : type.Represents (schema.boxed key))
    (hwritten : Bson.array <$> values.mapM type.toBson = .ok written) :
    (schema.elementKind key).coerceArray written = .ok written := by
  obtain ⟨items, hitems, rfl⟩ := Except.map_eq_ok_iff.1 hwritten
  refine Except.map_eq_ok_iff.2 ⟨items, ?_, rfl⟩
  rw [Except.mapM_eq_ok_iff, List.forall₂_same]
  intro item hitem
  obtain ⟨value, -, hvalue⟩ := Except.exists_of_mem_mapM hitems hitem
  exact coerce_toBson h hvalue

/-- What a slot holds for an array is written with its elements in their representation. -/
theorem coerceArray_toBson (h : type.HoldsArray (schema.boxed key))
    (hwritten : type.toBson value = .ok written) :
    (schema.elementKind key).coerceArray written = .ok written := by
  induction type with
  | option type ih =>
      cases value with
      | none =>
          cases hwritten
          rfl
      | some value => exact ih h hwritten
  | list type => exact coerceArray_mapM_toBson h hwritten
  | fixed length type => exact coerceArray_mapM_toBson h hwritten
  | _ => exact h.elim

end ElementKind

end ObjectDocument
