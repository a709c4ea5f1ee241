import Mathlib.Algebra.Order.Group.Int
import Mathlib.Algebra.Order.Ring.Nat
import ObjectDocument.Number.Double

/-!
# Rounding of numbers that a format holds

A pattern is decoded to a significand and an exponent, and `decode?_eq_some_iff` says which pairs
come out of it.  Rounding is exact in both directions: what fits into a format is rounded to a
pattern that is worth the same (`decode?_round`), and what a pattern is worth is rounded to that
pattern, however the significand is scaled (`round_of_decode?`).

Numbers of 32 bits fit into 64 bits, so widening one and narrowing it again gives it back.  Of a
narrowed number this holds even if it is no number, because narrowing leaves one pattern of these
(`Double.toSingle_toDouble_toSingle`).
-/

namespace ObjectDocument

namespace BinaryFormat

theorem bitLength_of_ne_zero {n : Nat} (h : n ≠ 0) : bitLength n = n.log2 + 1 := by
  simp [bitLength, h]

theorem bitLength_le_iff {n k : Nat} : bitLength n ≤ k ↔ n < 2 ^ k := by
  by_cases h : n = 0
  · simp [h, bitLength]
  · rw [bitLength_of_ne_zero h, Nat.succ_le_iff, Nat.log2_lt h]

theorem two_pow_le_of_bitLength {n k : Nat} (h : bitLength n = k + 1) : 2 ^ k ≤ n := by
  by_contra hlt
  have := bitLength_le_iff.2 (Nat.lt_of_not_le hlt)
  omega

theorem bitLength_mul_two_pow {n : Nat} (h : n ≠ 0) (j : Nat) :
    bitLength (n * 2 ^ j) = bitLength n + j := by
  have hne : n * 2 ^ j ≠ 0 := Nat.mul_ne_zero h (Nat.two_pow_pos j).ne'
  have hlog : (n * 2 ^ j).log2 = n.log2 + j := by
    rw [Nat.log2_eq_iff hne, Nat.add_right_comm, Nat.pow_add, Nat.pow_add _ _ j]
    exact ⟨Nat.mul_le_mul_right _ (Nat.log2_self_le h),
      Nat.mul_lt_mul_of_pos_right Nat.lt_log2_self (Nat.two_pow_pos j)⟩
  rw [bitLength_of_ne_zero hne, bitLength_of_ne_zero h, hlog, Nat.add_right_comm]

theorem roundQuotient_mul_right (n : Nat) {d : Nat} (h : 0 < d) : roundQuotient (n * d) d = n := by
  simp [roundQuotient, Nat.mul_div_cancel n h, h.ne]

variable {f : BinaryFormat}

/-- The topmost bit of a significand carries into the field of the exponent. -/
theorem div_two_pow_of_normal {place significand : Nat}
    (hnormal : 2 ^ f.fractionBits ≤ significand) (hlt : significand < 2 ^ f.fractionBits * 2) :
    (place * 2 ^ f.fractionBits + significand) / 2 ^ f.fractionBits = place + 1 := by
  have hsplit : place * 2 ^ f.fractionBits + significand =
      significand - 2 ^ f.fractionBits + 2 ^ f.fractionBits * (place + 1) := by
    rw [Nat.mul_add, Nat.mul_comm (2 ^ f.fractionBits)]
    omega
  rw [hsplit, Nat.add_mul_div_left _ _ (Nat.two_pow_pos _), Nat.div_eq_of_lt (by omega),
    Nat.zero_add]

/-- A finite pattern is the significand, put in at the place of the exponent. -/
theorem decode?_eq_some_iff {pattern significand : Nat} {exponent : Int} :
    f.decode? pattern = some (significand, exponent) ↔
      pattern < f.infinity ∧ f.leastExponent ≤ exponent ∧ significand < 2 ^ (f.fractionBits + 1) ∧
        (exponent = f.leastExponent ∨ 2 ^ f.fractionBits ≤ significand) ∧
        pattern = (exponent - f.leastExponent).toNat * 2 ^ f.fractionBits + significand := by
  have hpos : 0 < 2 ^ f.fractionBits := Nat.two_pow_pos _
  have hdivmod := Nat.div_add_mod pattern (2 ^ f.fractionBits)
  have hmod := Nat.mod_lt pattern hpos
  unfold decode?
  by_cases hfinite : pattern < f.infinity
  · rw [if_pos hfinite]
    simp only [hfinite, true_and, Nat.pow_succ]
    by_cases hzero : pattern / 2 ^ f.fractionBits = 0
    · rw [hzero, Nat.mul_zero, Nat.zero_add] at hdivmod
      simp only [hzero, if_true, Option.some.injEq, Prod.mk.injEq]
      constructor
      · rintro ⟨rfl, rfl⟩
        exact ⟨Int.le_refl _, by omega, .inl rfl, by simpa using hdivmod.symm⟩
      · rintro ⟨hle, -, hleast | hnormal, heq⟩
        · subst hleast
          simp only [Int.sub_self, Int.toNat_zero, Nat.zero_mul, Nat.zero_add] at heq
          exact ⟨hdivmod.trans heq, rfl⟩
        · have := Nat.le_add_left significand
            ((exponent - f.leastExponent).toNat * 2 ^ f.fractionBits)
          omega
    · obtain ⟨e, he⟩ := Nat.exists_eq_succ_of_ne_zero hzero
      simp only [he, Nat.succ_ne_zero, if_false, Option.some.injEq, Prod.mk.injEq,
        Nat.succ_sub_one]
      rw [he, Nat.mul_succ, Nat.mul_comm] at hdivmod
      constructor
      · rintro ⟨rfl, rfl⟩
        refine ⟨by omega, by omega, .inr (Nat.le_add_right _ _), ?_⟩
        rw [show (f.leastExponent + (e : Int) - f.leastExponent).toNat = e by omega]
        omega
      · rintro ⟨hle, hlt, hcase, heq⟩
        -- The pattern has one quotient and one remainder, and both pairs are such.
        have hnormal : 2 ^ f.fractionBits ≤ significand := by
          rcases hcase with hleast | hnormal
          · subst hleast
            simp only [Int.sub_self, Int.toNat_zero, Nat.zero_mul, Nat.zero_add] at heq
            have := Nat.le_mul_of_pos_left (2 ^ f.fractionBits) (Nat.succ_pos e)
            rw [Nat.succ_mul] at this
            omega
          · exact hnormal
        have hquotient : pattern / 2 ^ f.fractionBits = (exponent - f.leastExponent).toNat + 1 :=
          heq ▸ div_two_pow_of_normal hnormal hlt
        rw [he] at hquotient
        obtain rfl : e = (exponent - f.leastExponent).toNat := by omega
        constructor <;> omega
  · simp [hfinite]

theorem decode?_eq_none_iff {pattern : Nat} : f.decode? pattern = none ↔ f.infinity ≤ pattern := by
  unfold decode?
  by_cases hfinite : pattern < f.infinity
  · by_cases hzero : pattern / 2 ^ f.fractionBits = 0
    · simp [hfinite, hzero]
    · simp [hfinite, hzero]
  · simp [hfinite, Nat.le_of_not_lt hfinite]

/-- The exponent that a number is rounded at. -/
def roundingExponent (f : BinaryFormat) (significand : Nat) (exponent : Int) : Int :=
  max (exponent + bitLength significand - (f.fractionBits + 1 : Nat)) f.leastExponent

theorem round_of_ne_zero {significand : Nat} (h : significand ≠ 0) (exponent : Int) :
    f.round significand exponent =
      min ((f.roundingExponent significand exponent - f.leastExponent).toNat * 2 ^ f.fractionBits +
        if f.roundingExponent significand exponent ≤ exponent then
          significand * 2 ^ (exponent - f.roundingExponent significand exponent).toNat
        else
          roundQuotient significand
            (2 ^ (f.roundingExponent significand exponent - exponent).toNat)) f.infinity := by
  rw [round, if_neg h]
  rfl

/-- A number that is short enough, and neither too small nor too great, is rounded to a pattern that
is worth it. -/
theorem decode?_round {significand : Nat} {exponent : Int}
    (hlength : significand < 2 ^ (f.fractionBits + 1)) (hleast : f.leastExponent ≤ exponent)
    (hfinite : f.round significand exponent < f.infinity) :
    ∃ j : Nat, f.decode? (f.round significand exponent) =
      some (significand * 2 ^ j, exponent - j) := by
  by_cases hzero : significand = 0
  · subst hzero
    refine ⟨(exponent - f.leastExponent).toNat, decode?_eq_some_iff.2 ⟨hfinite, ?_⟩⟩
    rw [round, if_pos rfl, Nat.zero_mul, Int.toNat_of_nonneg (Int.sub_nonneg_of_le hleast),
      Int.sub_sub_self]
    exact ⟨Int.le_refl _, Nat.two_pow_pos _, .inl rfl, by simp⟩
  · have hbits := bitLength_le_iff.2 hlength
    have hunit : f.leastExponent ≤ f.roundingExponent significand exponent := Int.le_max_right _ _
    have hle : f.roundingExponent significand exponent ≤ exponent := by
      unfold roundingExponent
      omega
    refine ⟨(exponent - f.roundingExponent significand exponent).toNat, ?_⟩
    have hround := round_of_ne_zero (f := f) hzero exponent
    rw [if_pos hle] at hround
    rw [decode?_eq_some_iff,
      show exponent - ((exponent - f.roundingExponent significand exponent).toNat : Int) =
        f.roundingExponent significand exponent by omega]
    have hscaled := bitLength_mul_two_pow hzero
      (exponent - f.roundingExponent significand exponent).toNat
    refine ⟨hfinite, hunit, ?_, ?_, ?_⟩
    · rw [← bitLength_le_iff, hscaled]
      unfold roundingExponent
      omega
    · by_cases hsmall : f.roundingExponent significand exponent = f.leastExponent
      · exact .inl hsmall
      · right
        refine two_pow_le_of_bitLength (hscaled.trans ?_)
        unfold roundingExponent at hsmall ⊢
        omega
    · rw [hround] at hfinite ⊢
      omega

/-- What a pattern is worth is rounded to that pattern. -/
theorem round_of_decode? {pattern significand : Nat} {exponent : Int}
    (h : f.decode? pattern = some (significand, exponent)) (j : Nat) :
    f.round (significand * 2 ^ j) (exponent - j) = pattern := by
  obtain ⟨hfinite, hleast, hlength, hcase, hpattern⟩ := decode?_eq_some_iff.1 h
  by_cases hzero : significand = 0
  · subst hzero
    rcases hcase with rfl | hnormal
    · rw [hpattern]
      simp [round]
    · exact absurd hnormal (Nat.not_le_of_lt (Nat.two_pow_pos _))
  · have hne : significand * 2 ^ j ≠ 0 := Nat.mul_ne_zero hzero (Nat.two_pow_pos j).ne'
    have hbits := bitLength_le_iff.2 hlength
    have hunit : f.roundingExponent (significand * 2 ^ j) (exponent - j) = exponent := by
      unfold roundingExponent
      rw [bitLength_mul_two_pow hzero]
      rcases hcase with rfl | hnormal
      · omega
      · have : ¬bitLength significand ≤ f.fractionBits := fun hle =>
          Nat.not_lt_of_le hnormal (bitLength_le_iff.1 hle)
        omega
    have hunits : (if exponent ≤ exponent - j then
        significand * 2 ^ j * 2 ^ (exponent - j - exponent).toNat
      else roundQuotient (significand * 2 ^ j) (2 ^ (exponent - (exponent - j)).toNat)) =
        significand := by
      by_cases hj : j = 0
      · subst hj
        simp
      · rw [if_neg (by omega), show (exponent - (exponent - (j : Int))).toNat = j by omega]
        exact roundQuotient_mul_right _ (Nat.two_pow_pos j)
    rw [round_of_ne_zero hne, hunit, hunits, ← hpattern]
    exact Nat.min_eq_left (Nat.le_of_lt hfinite)

/-- What a number of 32 bits is worth can be told in 64 bits. -/
theorem round_lt_infinity_of_decode? {pattern significand : Nat} {exponent : Int}
    (h : binary32.decode? pattern = some (significand, exponent)) :
    binary64.round significand exponent < binary64.infinity := by
  obtain ⟨hfinite, hleast, hlength, -, hpattern⟩ := decode?_eq_some_iff.1 h
  by_cases hzero : significand = 0
  · subst hzero
    rw [round, if_pos rfl]
    decide
  · have hbits : bitLength significand ≤ 24 := bitLength_le_iff.2 hlength
    have hleast : (-149 : Int) ≤ exponent := hleast
    have hexponent : exponent < 106 := by
      have hfinite : pattern < 255 * 2 ^ 23 := hfinite
      have hpattern : pattern = (exponent - -149).toNat * 2 ^ 23 + significand := hpattern
      omega
    have hunit : binary64.roundingExponent significand exponent =
        max (exponent + bitLength significand - (53 : Nat)) (-1074) := rfl
    have hle : binary64.roundingExponent significand exponent ≤ exponent := by omega
    have hunits : significand *
        2 ^ (exponent - binary64.roundingExponent significand exponent).toNat < 2 ^ 53 := by
      rw [← bitLength_le_iff, bitLength_mul_two_pow hzero]
      omega
    rw [round_of_ne_zero hzero, if_pos hle]
    refine Nat.lt_of_le_of_lt (Nat.min_le_left _ _) ?_
    change (binary64.roundingExponent significand exponent - -1074).toNat * 2 ^ 52 + _ <
      2047 * 2 ^ 52
    omega

end BinaryFormat

theorem sign_le (negative : Bool) (half : Nat) : (if negative then half else 0) ≤ half := by
  cases negative <;> simp

namespace Double

variable {negative : Bool} {magnitude : Nat}

theorem toNat_bits_ofParts (h : magnitude < 2 ^ 63) :
    (ofParts negative magnitude).bits.toNat = magnitude + if negative then 2 ^ 63 else 0 := by
  have hsign := sign_le negative (2 ^ 63)
  rw [ofParts, UInt64.toNat_ofNat_of_lt']
  exact Nat.lt_of_lt_of_le (Nat.add_lt_add_of_lt_of_le h hsign) (by decide)

theorem magnitude_ofParts (h : magnitude < 2 ^ 63) :
    (ofParts negative magnitude).magnitude = magnitude := by
  rw [Double.magnitude, toNat_bits_ofParts h]
  cases negative with
  | false => simpa using h
  | true => simpa using h

theorem isNegative_ofParts (h : magnitude < 2 ^ 63) :
    (ofParts negative magnitude).isNegative = negative := by
  rw [isNegative, toNat_bits_ofParts h]
  cases negative with
  | false => simpa using h
  | true => simp

end Double

namespace Single

def magnitude (s : Single) : Nat :=
  s.bits.toNat % 2 ^ 31

def isNegative (s : Single) : Bool :=
  2 ^ 31 ≤ s.bits.toNat

/-- The pattern that stands for everything that is no number once it was narrowed. -/
def notNumber : Nat :=
  BinaryFormat.binary32.infinity + 2 ^ (BinaryFormat.binary32.fractionBits - 1)

theorem eq_of_magnitude {s : Single} {magnitude : Nat} {negative : Bool}
    (hmagnitude : magnitude = s.magnitude) (hnegative : negative = s.isNegative) :
    (⟨UInt32.ofNat (magnitude + if negative then 2 ^ 31 else 0)⟩ : Single) = s := by
  have hbits : magnitude + (if negative then 2 ^ 31 else 0) = s.bits.toNat := by
    have hlt := s.bits.toNat_lt
    rw [hmagnitude, hnegative, Single.magnitude, isNegative]
    by_cases hsign : 2 ^ 31 ≤ s.bits.toNat
    · rw [if_pos (by simpa using hsign)]
      omega
    · rw [if_neg (by simpa using hsign)]
      omega
  rw [hbits, UInt32.ofNat_toNat]

theorem toDouble_of_decode? {s : Single} {significand : Nat} {exponent : Int}
    (h : BinaryFormat.binary32.decode? s.magnitude = some (significand, exponent)) :
    s.toDouble =
      .ofParts s.isNegative (BinaryFormat.binary64.round significand exponent) := by
  unfold magnitude at h
  simp only [toDouble, h]
  rfl

theorem toDouble_of_infinite {s : Single} (h : BinaryFormat.binary32.decode? s.magnitude = none) :
    s.toDouble = .ofParts s.isNegative (BinaryFormat.binary64.infinity +
      if BinaryFormat.binary32.infinity < s.magnitude then 2 ^ 51 else 0) := by
  unfold magnitude at h
  simp only [toDouble, h]
  rfl

/-- Narrowing gives back what was widened. -/
theorem toSingle_toDouble {s : Single}
    (h : s.magnitude ≤ BinaryFormat.binary32.infinity ∨ s.magnitude = notNumber) :
    s.toDouble.toSingle = s := by
  have hinfinity : BinaryFormat.binary64.infinity + 2 ^ 51 < 2 ^ 63 := by decide
  cases hdecode : BinaryFormat.binary32.decode? s.magnitude with
  | some parts =>
      obtain ⟨significand, exponent⟩ := parts
      have hfinite := BinaryFormat.round_lt_infinity_of_decode? hdecode
      obtain ⟨-, hleast, hlength, -, -⟩ := BinaryFormat.decode?_eq_some_iff.1 hdecode
      have hlength : significand < 2 ^ (BinaryFormat.binary64.fractionBits + 1) :=
        Nat.lt_trans hlength (by decide)
      have hleast : BinaryFormat.binary64.leastExponent ≤ exponent :=
        Int.le_trans (by decide) hleast
      obtain ⟨j, hj⟩ := BinaryFormat.decode?_round hlength hleast hfinite
      have hlt : BinaryFormat.binary64.round significand exponent < 2 ^ 63 := by omega
      rw [toDouble_of_decode? hdecode, Double.toSingle, Double.magnitude_ofParts hlt,
        Double.isNegative_ofParts hlt, hj]
      exact eq_of_magnitude (BinaryFormat.round_of_decode? hdecode j) rfl
  | none =>
      have hwide := toDouble_of_infinite hdecode
      have hlarge := BinaryFormat.decode?_eq_none_iff.1 hdecode
      by_cases hnumber : BinaryFormat.binary32.infinity < s.magnitude
      · have hnone :
            BinaryFormat.binary64.decode? (BinaryFormat.binary64.infinity + 2 ^ 51) = none := by
          decide
        have hlt : BinaryFormat.binary64.infinity + 2 ^ 51 < 2 ^ 63 := hinfinity
        have heq : notNumber = s.magnitude := (h.resolve_left (Nat.not_le_of_lt hnumber)).symm
        rw [if_pos hnumber] at hwide
        rw [hwide, Double.toSingle, Double.magnitude_ofParts hinfinity,
          Double.isNegative_ofParts hinfinity, hnone, Double.isNaN,
          Double.magnitude_ofParts hinfinity]
        exact eq_of_magnitude heq rfl
      · have hnone := (BinaryFormat.decode?_eq_none_iff (f := .binary64)).2 (Nat.le_refl _)
        have hlt := Nat.lt_of_le_of_lt (Nat.le_add_right _ _) hinfinity
        have heq : BinaryFormat.binary32.infinity = s.magnitude :=
          Nat.le_antisymm hlarge (Nat.le_of_not_lt hnumber)
        rw [if_neg hnumber, Nat.add_zero] at hwide
        rw [hwide, Double.toSingle, Double.magnitude_ofParts hlt, Double.isNegative_ofParts hlt,
          hnone, Double.isNaN, Double.magnitude_ofParts hlt]
        exact eq_of_magnitude heq rfl

end Single

/-- A narrowed number is widened and narrowed again without a change. -/
theorem Double.toSingle_toDouble_toSingle (d : Double) :
    d.toSingle.toDouble.toSingle = d.toSingle := by
  refine Single.toSingle_toDouble ?_
  -- The magnitude that narrowing puts together.
  have hmagnitude (magnitude : Nat) (hlt : magnitude < 2 ^ 31) :
      (⟨UInt32.ofNat (magnitude + if d.isNegative then 2 ^ 31 else 0)⟩ : Single).magnitude =
        magnitude := by
    have hsign := sign_le d.isNegative (2 ^ 31)
    have htoNat : (UInt32.ofNat (magnitude + if d.isNegative then 2 ^ 31 else 0)).toNat =
        magnitude + if d.isNegative then 2 ^ 31 else 0 :=
      UInt32.toNat_ofNat_of_lt'
        (Nat.lt_of_lt_of_le (Nat.add_lt_add_of_lt_of_le hlt hsign) (by decide))
    rw [Single.magnitude, htoNat]
    cases d.isNegative with
    | false => simpa using hlt
    | true => simpa using hlt
  have hinfinity : BinaryFormat.binary32.infinity < 2 ^ 31 := by decide
  unfold toSingle
  cases hdecode : BinaryFormat.binary64.decode? d.magnitude with
  | some parts =>
      obtain ⟨significand, exponent⟩ := parts
      have hle : BinaryFormat.binary32.round significand exponent ≤
          BinaryFormat.binary32.infinity := by
        unfold BinaryFormat.round
        split
        · exact Nat.zero_le _
        · exact Nat.min_le_right _ _
      rw [hmagnitude _ (Nat.lt_of_le_of_lt hle hinfinity)]
      exact .inl hle
  | none =>
      cases d.isNaN with
      | false =>
          rw [hmagnitude _ (by decide)]
          exact .inl (by decide)
      | true =>
          rw [hmagnitude _ (by decide)]
          exact .inr rfl

end ObjectDocument
