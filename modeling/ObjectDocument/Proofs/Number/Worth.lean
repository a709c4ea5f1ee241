import Mathlib.Algebra.Order.Field.Power
import Mathlib.Data.Rat.Cast.Order
import Mathlib.Tactic.Positivity
import ObjectDocument.Number.Double

/-!
# What a floating point number is worth

The bits of a finite number denote a rational: its sign, times its significand, times a power of
two.  The integer that a number is read as is the one that this rational is, if it is an integer at
all (`Double.toInt?_eq_some_iff`).
-/

namespace ObjectDocument

theorem scaled_eq_some_iff {significand n : ℕ} {exponent : ℤ} :
    (if 0 ≤ exponent then some (significand * 2 ^ exponent.toNat)
      else if significand % 2 ^ (-exponent).toNat = 0 then
        some (significand / 2 ^ (-exponent).toNat)
      else none) = some n ↔ (significand : ℚ) * 2 ^ exponent = n := by
  by_cases hexponent : 0 ≤ exponent
  · obtain ⟨k, rfl⟩ := Int.eq_ofNat_of_zero_le hexponent
    rw [if_pos hexponent, Int.toNat_natCast, zpow_natCast, Option.some_inj]
    exact_mod_cast Iff.rfl
  · obtain ⟨k, hk⟩ := Int.eq_ofNat_of_zero_le (show 0 ≤ -exponent by omega)
    obtain rfl : exponent = -(k : ℤ) := by omega
    have hpos : 0 < 2 ^ k := Nat.two_pow_pos k
    have hdivides : (significand : ℚ) * 2 ^ (-(k : ℤ)) = n ↔ significand = n * 2 ^ k := by
      rw [zpow_neg, zpow_natCast, ← div_eq_mul_inv, div_eq_iff (by positivity)]
      exact_mod_cast Iff.rfl
    rw [if_neg hexponent, hdivides, neg_neg, Int.toNat_natCast]
    constructor
    · intro h
      by_cases hrest : significand % 2 ^ k = 0
      · rw [if_pos hrest] at h
        rw [← Option.some.inj h, Nat.div_mul_cancel (Nat.dvd_of_mod_eq_zero hrest)]
      · rw [if_neg hrest] at h
        cases h
    · rintro rfl
      rw [if_pos (Nat.mul_mod_left n _), Nat.mul_div_cancel n hpos]

/-- A rational that is not negative is a natural number if it is an integer once it has a sign. -/
theorem exists_signed_eq_iff {q : ℚ} (h : 0 ≤ q) (negative : Bool) {n : ℤ} :
    (∃ m : ℕ, q = m ∧ (if negative then -(m : ℤ) else m) = n) ↔
      (if negative then -1 else 1) * q = n := by
  constructor
  · rintro ⟨m, rfl, rfl⟩
    cases negative <;> simp
  · intro hq
    cases negative with
    | false =>
        obtain rfl : q = n := by simpa using hq
        obtain ⟨m, rfl⟩ := Int.eq_ofNat_of_zero_le (show 0 ≤ n by exact_mod_cast h)
        exact ⟨m, by simp, rfl⟩
    | true =>
        have hq : q = (-n : ℤ) := by
          rw [Int.cast_neg, ← hq]
          simp
        obtain ⟨m, hm⟩ := Int.eq_ofNat_of_zero_le (show 0 ≤ -n by rw [hq] at h; exact_mod_cast h)
        refine ⟨m, by rw [hq, hm, Int.cast_natCast], ?_⟩
        change -(m : ℤ) = n
        omega

namespace Double

def sign (d : Double) : ℚ :=
  if 2 ^ 63 ≤ d.bits.toNat then -1 else 1

def exponentField (d : Double) : ℕ :=
  d.bits.toNat / 2 ^ 52 % 2 ^ 11

def fraction (d : Double) : ℕ :=
  d.bits.toNat % 2 ^ 52

/-- The rational that the bits of a number denote.  A fraction has a leading one unless the field of
the exponent is zero. -/
def worth? (d : Double) : Option ℚ :=
  if d.exponentField = 2047 then none
  else if d.exponentField = 0 then some (d.sign * (d.fraction * 2 ^ (-1074 : ℤ)))
  else some (d.sign * ((2 ^ 52 + d.fraction : ℕ) * 2 ^ ((d.exponentField : ℤ) - 1075)))

/-- What the bits denote, by way of the significand and the exponent. -/
theorem worth?_eq (d : Double) :
    d.worth? = (BinaryFormat.binary64.decode? d.magnitude).map fun parts =>
      d.sign * (parts.1 * 2 ^ parts.2) := by
  have hexponent : d.exponentField = d.magnitude / 2 ^ 52 := by
    unfold exponentField magnitude
    omega
  have hfraction : d.fraction = d.magnitude % 2 ^ 52 := by
    unfold fraction magnitude
    omega
  have hlt : d.magnitude < 2 ^ 63 := Nat.mod_lt _ (by decide)
  unfold worth? BinaryFormat.decode?
  rw [hexponent, hfraction]
  by_cases hfinite : d.magnitude < 2047 * 2 ^ 52
  · have hfields : d.magnitude / 2 ^ 52 ≠ 2047 := by omega
    have hbelow : d.magnitude < BinaryFormat.binary64.infinity := hfinite
    rw [if_neg hfields, if_pos hbelow]
    by_cases hzero : d.magnitude / 2 ^ 52 = 0
    · have hsubnormal : d.magnitude / 2 ^ BinaryFormat.binary64.fractionBits = 0 := hzero
      rw [if_pos hzero, if_pos hsubnormal]
      rfl
    · have hnormal : d.magnitude / 2 ^ BinaryFormat.binary64.fractionBits ≠ 0 := hzero
      have hscale : ((d.magnitude / 2 ^ 52 : ℕ) : ℤ) - 1075 =
          -1074 + ((d.magnitude / 2 ^ 52 - 1 : ℕ) : ℤ) := by
        omega
      rw [if_neg hzero, if_neg hnormal, hscale]
      rfl
  · have hfields : d.magnitude / 2 ^ 52 = 2047 := by omega
    have habove : ¬ d.magnitude < BinaryFormat.binary64.infinity := hfinite
    rw [if_pos hfields, if_neg habove]
    rfl

theorem toInt?_of_decode? {d : Double} {significand : ℕ} {exponent : ℤ}
    (h : BinaryFormat.binary64.decode? d.magnitude = some (significand, exponent)) :
    d.toInt? = Option.map (fun unsigned : ℕ => if d.isNegative then -(unsigned : ℤ) else unsigned)
      (if 0 ≤ exponent then some (significand * 2 ^ exponent.toNat)
        else if significand % 2 ^ (-exponent).toNat = 0 then
          some (significand / 2 ^ (-exponent).toNat)
        else none) := by
  rw [toInt?, h]
  by_cases hexponent : 0 ≤ exponent
  · rw [if_pos hexponent]
    exact if_pos hexponent
  · rw [if_neg hexponent]
    by_cases hrest : significand % 2 ^ (-exponent).toNat = 0
    · rw [if_pos hrest]
      exact (if_neg hexponent).trans (if_pos hrest)
    · rw [if_neg hrest]
      exact (if_neg hexponent).trans (if_neg hrest)

/-- A number is read as an integer if it is worth that integer. -/
theorem toInt?_eq_some_iff {d : Double} {n : ℤ} : d.toInt? = some n ↔ d.worth? = some (n : ℚ) := by
  rw [worth?_eq]
  cases hdecode : BinaryFormat.binary64.decode? d.magnitude with
  | none => simp [toInt?, hdecode]
  | some parts =>
      obtain ⟨significand, exponent⟩ := parts
      have hnonneg : (0 : ℚ) ≤ significand * 2 ^ exponent := by positivity
      have hsign : d.sign = if d.isNegative then -1 else 1 := by simp [sign, isNegative]
      rw [toInt?_of_decode? hdecode, Option.map_eq_some_iff, Option.map_some, Option.some_inj,
        hsign, ← exists_signed_eq_iff hnonneg]
      exact exists_congr fun m => and_congr_left fun _ => scaled_eq_some_iff

end Double

end ObjectDocument
