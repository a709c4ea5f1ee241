import ObjectDocument.Proofs.Accessor.Elements
import ObjectDocument.Proofs.Number.Worth
import ObjectDocument.Proofs.Value.Normal
import ObjectDocument.Proofs.Value.Refusal

/-!
# Conversions to integers

A number of a document is converted to an integer where it is worth one.  A floating point number is
brought into 64 bits first, and only then the range of the target is looked at, so a target that is
narrower refuses every number out of its range, and one of 64 bits takes the nearest integer for it
(`IntegerTarget.lossless_iff`).
-/

namespace ObjectDocument

theorem clampInt64_eq_self_iff {n : Int} : clampInt64 n = n ↔ -2 ^ 63 ≤ n ∧ n < 2 ^ 63 := by
  unfold clampInt64
  omega

namespace Bson

def worth? : Bson → Option ℚ
  | .int32 value => some value.toInt
  | .int64 value => some value.toInt
  | .double value => value.worth?
  | _ => none

/-- A number is read as the integer that it is worth, or as the nearest one of 64 bits. -/
theorem toInt?_eq_some_iff {b : Bson} {n : Int} :
    b.toInt? = some n ↔ ∃ k : Int, b.worth? = some (k : ℚ) ∧ clampInt64 k = n := by
  have hinteger (value : Int) (hvalue : clampInt64 value = value) :
      some value = some n ↔ ∃ k : Int, some (value : ℚ) = some (k : ℚ) ∧ clampInt64 k = n := by
    simp only [Option.some_inj, Int.cast_inj, exists_eq_left', hvalue]
  cases b with
  | int32 value =>
      have hle := Int32.le_toInt value
      have hlt := Int32.toInt_lt value
      exact hinteger value.toInt (clampInt64_eq_self_iff.2 (by omega))
  | int64 value =>
      exact hinteger value.toInt
        (clampInt64_eq_self_iff.2 ⟨Int64.le_toInt value, Int64.toInt_lt value⟩)
  | double value =>
      change value.toInt?.map clampInt64 = some n ↔ ∃ k : Int, value.worth? = some (k : ℚ) ∧ _
      simp only [Option.map_eq_some_iff, Double.toInt?_eq_some_iff]
  | _ => simp [toInt?, worth?]

end Bson

/-- What numbers are converted to integers for: slots, and elements of arrays. -/
inductive IntegerTarget where
  | byte
  | int16
  | int32
  | int64
  | int32Element
  | int64Element
deriving DecidableEq

namespace IntegerTarget

def range : IntegerTarget → Set Int
  | .byte => {n | 0 ≤ n ∧ n < 2 ^ 8}
  | .int16 => {n | -2 ^ 15 ≤ n ∧ n < 2 ^ 15}
  | .int32 | .int32Element => {n | -2 ^ 31 ≤ n ∧ n < 2 ^ 31}
  | .int64 | .int64Element => {n | -2 ^ 63 ≤ n ∧ n < 2 ^ 63}

def isWide : IntegerTarget → Bool
  | .int64 | .int64Element => true
  | _ => false

def isElement : IntegerTarget → Bool
  | .int32Element | .int64Element => true
  | _ => false

variable {target : IntegerTarget} {b : Bson} {n : Int}

theorem clampInt64_of_mem_range (h : n ∈ target.range) : clampInt64 n = n := by
  rw [clampInt64_eq_self_iff]
  cases target <;> simp only [range, Set.mem_ofPred_eq] at h <;> omega

/-- What is brought into 64 bits is out of the range of a narrower target, unless it was in it. -/
theorem clampInt64_eq_of_mem_range (hnarrow : target.isWide = false)
    (h : clampInt64 n ∈ target.range) : clampInt64 n = n := by
  rw [clampInt64_eq_self_iff]
  unfold clampInt64 at h
  cases target <;> simp only [range, Set.mem_ofPred_eq] at h <;> first | omega | cases hnarrow

theorem map_readInt_eq_ok_iff {α : Type} {label : String} {low high : Int} {make : Int → α}
    {value : α → Option Int} (hvalue : ∀ m, low ≤ m → m < high → value (make m) = some m)
    {read : Option Int} :
    value <$> readInt label low high make b = .ok read ↔
      ∃ m, b.toInt? = some m ∧ (low ≤ m ∧ m < high) ∧ some m = read := by
  rw [Except.map_eq_ok_iff]
  constructor
  · rintro ⟨a, ha, rfl⟩
    obtain ⟨m, hm, hlow, hhigh, rfl⟩ := readInt_eq_ok_iff.1 ha
    exact ⟨m, hm, ⟨hlow, hhigh⟩, (hvalue m hlow hhigh).symm⟩
  · rintro ⟨m, hm, ⟨hlow, hhigh⟩, rfl⟩
    exact ⟨make m, readInt_eq_ok_iff.2 ⟨m, hm, hlow, hhigh, rfl⟩, hvalue m hlow hhigh⟩

section

variable [ValueTypes]

def convert : IntegerTarget → Bson → Except MappingError (Option Int)
  | .byte, b => (fun n : UInt8 => some (n.toNat : Int)) <$> SlotType.byte.ofBson b
  | .int16, b => (fun n : Int16 => some n.toInt) <$> SlotType.int16.ofBson b
  | .int32, b => (fun n : Int32 => some n.toInt) <$> SlotType.int32.ofBson b
  | .int64, b => (fun n : Int64 => some n.toInt) <$> SlotType.int64.ofBson b
  | .int32Element, b => Extended.whole? <$> ElementKind.int32.coerce b
  | .int64Element, b => Extended.whole? <$> ElementKind.int64.coerce b

/-- The value is converted without loss: to the integer that it is worth, if there is room for it,
and else it is refused, unless it is a missing element. -/
def Lossless (target : IntegerTarget) (b : Bson) : Prop :=
  (∀ n, target.convert b = .ok (some n) ↔ n ∈ target.range ∧ b.worth? = some (n : ℚ)) ∧
    ((∀ n ∈ target.range, b.worth? ≠ some (n : ℚ)) →
      (∃ fault, target.convert b = .error (.conversion fault)) ∨ target.isElement ∧ b = .null)

/-- A conversion looks at the integer that a value is read as, and at the range. -/
theorem convert_eq_ok_iff (h : target.isElement → b ≠ .null) {read : Option Int} :
    target.convert b = .ok read ↔ ∃ m, b.toInt? = some m ∧ m ∈ target.range ∧ some m = read := by
  cases target with
  | byte =>
      refine map_readInt_eq_ok_iff fun m hlow hhigh => ?_
      have hlt : m.toNat < 256 := by
        have hhigh : m < 256 := hhigh
        omega
      rw [UInt8.toNat_ofNat_of_lt' hlt, Int.toNat_of_nonneg hlow]
  | int16 =>
      refine map_readInt_eq_ok_iff fun m hlow hhigh => ?_
      exact congrArg some (Int16.toInt_ofInt_of_le hlow hhigh)
  | int32 =>
      refine map_readInt_eq_ok_iff fun m hlow hhigh => ?_
      exact congrArg some (Int32.toInt_ofInt_of_le hlow hhigh)
  | int64 =>
      refine map_readInt_eq_ok_iff fun m hlow hhigh => ?_
      exact congrArg some (Int64.toInt_ofInt_of_le hlow hhigh)
  | int32Element =>
      rw [convert, ElementKind.coerce_int32_eq_readInt (h rfl)]
      refine map_readInt_eq_ok_iff fun m hlow hhigh => ?_
      exact congrArg some (Int32.toInt_ofInt_of_le hlow hhigh)
  | int64Element =>
      rw [convert, ElementKind.coerce_int64_eq_readInt (h rfl)]
      refine map_readInt_eq_ok_iff fun m hlow hhigh => ?_
      exact congrArg some (Int64.toInt_ofInt_of_le hlow hhigh)

theorem convert_null (h : target.isElement) : target.convert .null = .ok none := by
  cases target with
  | int32Element | int64Element => rfl
  | _ => cases h

theorem convert_eq_ok_some_iff :
    target.convert b = .ok (some n) ↔ b.toInt? = some n ∧ n ∈ target.range := by
  by_cases hnull : target.isElement ∧ b = .null
  · obtain ⟨helement, rfl⟩ := hnull
    simp [convert_null helement, Bson.toInt?]
  · rw [convert_eq_ok_iff (fun helement hb => hnull ⟨helement, hb⟩)]
    simp

theorem eq_null_of_convert_eq_none (h : target.convert b = .ok none) :
    target.isElement ∧ b = .null := by
  by_contra hnull
  obtain ⟨_, -, -, hnone⟩ := (convert_eq_ok_iff fun helement hb => hnull ⟨helement, hb⟩).1 h
  cases hnone

theorem convert_error {cause : MappingError} (h : target.convert b = .error cause) :
    ∃ fault, cause = .conversion fault := by
  cases target with
  | byte | int16 | int32 | int64 => exact ⟨_, readInt_error (Except.map_eq_error_iff.1 h)⟩
  | int32Element | int64Element =>
      exact ⟨_, ElementKind.coerce_error (Except.map_eq_error_iff.1 h)⟩

/-- A target of 64 bits takes any number that is worth an integer, as the nearest one of 64 bits. -/
theorem convert_of_isWide (hwide : target.isWide) {k : Int} (hworth : b.worth? = some (k : ℚ)) :
    target.convert b = .ok (some (clampInt64 k)) := by
  refine convert_eq_ok_some_iff.2 ⟨Bson.toInt?_eq_some_iff.2 ⟨k, hworth, rfl⟩, ?_⟩
  cases target with
  | int64 | int64Element => exact clampInt64_mem k
  | _ => cases hwide

/-- Conversions to integers are without loss for all numbers and all other values, with one
exception: a number that is worth an integer of more than 64 bits, converted for a target of 64
bits.  Its conversion does not fail, but gives the nearest integer that there is room for. -/
theorem lossless_iff (target : IntegerTarget) (b : Bson) :
    (target.Lossless b ↔
      (target.isWide → ∀ k : Int, b.worth? = some (k : ℚ) → k ∈ target.range)) ∧
    ∀ k : Int, target.isWide → b.worth? = some (k : ℚ) →
      target.convert b = .ok (some (clampInt64 k)) := by
  refine ⟨⟨fun hlossless hwide k hworth => ?_, fun hrange => ?_⟩,
    fun k hwide hworth => convert_of_isWide hwide hworth⟩
  · obtain ⟨hmem, hclamp⟩ := (hlossless.1 _).1 (convert_of_isWide hwide hworth)
    have hsame : k = clampInt64 k := by
      rw [hworth, Option.some_inj] at hclamp
      exact_mod_cast hclamp
    rwa [← hsame] at hmem
  · have hexact (n : Int) :
        target.convert b = .ok (some n) ↔ n ∈ target.range ∧ b.worth? = some (n : ℚ) := by
      rw [convert_eq_ok_some_iff, Bson.toInt?_eq_some_iff]
      constructor
      · rintro ⟨⟨k, hworth, rfl⟩, hmem⟩
        have hsame : clampInt64 k = k := by
          cases hwide : target.isWide with
          | true => exact clampInt64_of_mem_range (hrange hwide k hworth)
          | false => exact clampInt64_eq_of_mem_range hwide hmem
        exact ⟨hmem, by rw [hsame, hworth]⟩
      · rintro ⟨hmem, hworth⟩
        exact ⟨⟨n, hworth, clampInt64_of_mem_range hmem⟩, hmem⟩
    refine ⟨hexact, fun hnone => ?_⟩
    cases hconvert : target.convert b with
    | error cause =>
        obtain ⟨fault, rfl⟩ := convert_error hconvert
        exact .inl ⟨fault, rfl⟩
    | ok converted =>
        cases converted with
        | none => exact .inr (eq_null_of_convert_eq_none hconvert)
        | some n =>
            obtain ⟨hmem, hworth⟩ := (hexact n).1 hconvert
            exact absurd hworth (hnone n hmem)

end

/-- Two to the power of 63 does not go into 64 bits with a sign, but is converted to the greatest
integer that does. -/
theorem not_lossless_two_pow_63 :
    ¬ IntegerTarget.int64.Lossless (.double ⟨4890909195324358656⟩) := by
  intro hlossless
  have hworth : (Bson.double ⟨4890909195324358656⟩).worth? = some ((2 ^ 63 : Int) : ℚ) :=
    Double.toInt?_eq_some_iff.1 (by decide +kernel)
  have hconvert : IntegerTarget.int64.convert (.double ⟨4890909195324358656⟩) =
      .ok (some (2 ^ 63 - 1)) := by
    decide +kernel
  obtain ⟨-, hclaimed⟩ := (hlossless.1 _).1 hconvert
  rw [hworth, Option.some_inj] at hclaimed
  exact absurd (Int.cast_injective hclaimed) (by decide)

end IntegerTarget

end ObjectDocument
