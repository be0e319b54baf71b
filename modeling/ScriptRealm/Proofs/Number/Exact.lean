import ScriptRealm.Number

/-!
# Exact integers

Rounding an integer gives a number that is no NaN, and up to a magnitude of `2 ^ 53`, which is twice
the count of fractions, it gives the integer itself: a magnitude is exact if it is a significand
that is shifted by an exponent.
-/

namespace ScriptRealm.Binary64

/-! ## The word of an ordinal -/

theorem infinityOrdinal_lt_signWeight : infinityOrdinal < signWeight := by decide

/-- The sign is the highest bit, above all ordinals. -/
theorem toNat_ofOrdinal (negative : Bool) {n : Nat} (h : n < signWeight) :
    (ofOrdinal negative n).bits.toNat = if negative then n + signWeight else n := by
  have hsize : signWeight + signWeight = 2 ^ 64 := by decide
  rw [ofOrdinal, UInt64.toNat_ofNat']
  apply Nat.mod_eq_of_lt
  split <;> omega

/-- The word of a sign and an ordinal has that ordinal. -/
theorem ordinal_ofOrdinal (negative : Bool) {n : Nat} (h : n < signWeight) :
    (ofOrdinal negative n).ordinal = n := by
  rw [ordinal, toNat_ofOrdinal negative h]
  cases negative with
  | false => exact Nat.mod_eq_of_lt h
  | true => exact (Nat.add_mod_right n signWeight).trans (Nat.mod_eq_of_lt h)

/-- The word of a sign and an ordinal has that sign. -/
theorem negative_ofOrdinal (negative : Bool) {n : Nat} (h : n < signWeight) :
    (ofOrdinal negative n).negative = negative := by
  rw [Binary64.negative, toNat_ofOrdinal negative h]
  cases negative with
  | false => simpa using h
  | true => simp

/-! ## Rounding -/

/-- Rounding goes no further than to infinity, and leaves the sign free. -/
theorem ordinalOfUnits_lt (num den : Nat) : ordinalOfUnits num den < signWeight :=
  Nat.lt_of_le_of_lt (Nat.min_le_right _ _) infinityOrdinal_lt_signWeight

/-- The ordinals of NaNs lie behind the one of infinity, so rounding meets none of them. -/
theorem isNaN_nearest (negative : Bool) (num den : Nat) :
    (nearest negative num den).isNaN = false := by
  have hle : ordinalOfUnits (num * unitsPerOne) den ≤ infinityOrdinal := Nat.min_le_right _ _
  rw [isNaN, nearest, ordinal_ofOrdinal negative (ordinalOfUnits_lt _ _)]
  simpa using hle

@[simp] theorem isNaN_ofInt (i : Int) : (ofInt i).isNaN = false :=
  isNaN_nearest _ _ _

/-- The value of a rounded integer is that of its rounded magnitude, with its sign. -/
theorem units_ofInt (i : Int) :
    (ofInt i).units =
      if i < 0 then -(unitsOfOrdinal (ordinalOfUnits (i.natAbs * unitsPerOne) 1) : Int)
      else unitsOfOrdinal (ordinalOfUnits (i.natAbs * unitsPerOne) 1) := by
  have hlt := ordinalOfUnits_lt (i.natAbs * unitsPerOne) 1
  rw [units, magnitude, ofInt, nearest, negative_ofOrdinal _ hlt, ordinal_ofOrdinal _ hlt]
  simp only [decide_eq_true_eq]

/-- A multiple is divided without rounding. -/
theorem roundDiv_mul_right (m : Nat) {den : Nat} (h : 0 < den) : roundDiv (m * den) den = m := by
  have hrest : m * den % den = 0 := Nat.mul_mod_left m den
  unfold roundDiv
  simp only [hrest, Nat.mul_zero, h, if_true]
  exact Nat.mul_div_cancel m h

/-! ## Exact magnitudes -/

/-- A significand with its leading bit. -/
def Significand (m : Nat) : Prop :=
  fractionCount ≤ m ∧ m < 2 * fractionCount

section Exact

variable {m : Nat} (h : Significand m) (k : Nat)
include h

/-- A shifted significand is rounded to the number with that exponent and that fraction. -/
theorem ordinalOfUnits_significand (hk : k ≤ 2045) :
    ordinalOfUnits (m <<< k) 1 = k * fractionCount + m := by
  obtain ⟨hlow, hhigh⟩ := h
  have hpos : 0 < 2 ^ k := Nat.two_pow_pos k
  have hfraction : fractionCount = 2 ^ 52 := by decide
  have hnonzero : m * 2 ^ k ≠ 0 := by
    have hm : m ≠ 0 := by
      rintro rfl
      exact absurd hlow (by decide)
    exact Nat.mul_ne_zero hm (Nat.ne_of_gt hpos)
  -- the leading bit of the significand stands at place 52
  have hlog : (m <<< k / 1).log2 = 52 + k := by
    rw [Nat.div_one, Nat.shiftLeft_eq, Nat.log2_eq_iff hnonzero]
    constructor
    · rw [Nat.pow_add, ← hfraction]
      exact Nat.mul_le_mul_right _ hlow
    · have hsplit : 2 ^ (52 + k + 1) = 2 * fractionCount * 2 ^ k := by
        rw [hfraction, ← Nat.pow_succ', ← Nat.pow_add]
        congr 1
        omega
      rw [hsplit]
      exact Nat.mul_lt_mul_of_pos_right hhigh hpos
  have hfinite : k * fractionCount + m ≤ infinityOrdinal := by
    have hle : k * fractionCount ≤ 2045 * fractionCount := Nat.mul_le_mul_right _ hk
    have hinfinity : infinityOrdinal = 2045 * fractionCount + 2 * fractionCount := by decide
    omega
  -- a significand that fits loses nothing when it is rounded
  have hround : roundDiv (m <<< k) (1 <<< k) = m := by
    rw [Nat.one_shiftLeft, Nat.shiftLeft_eq]
    exact roundDiv_mul_right m hpos
  have hcoarse : 52 + k - 52 = k := by omega
  rw [ordinalOfUnits, hlog]
  simp only [hcoarse, hround]
  exact Nat.min_eq_left hfinite

/-- The number with that exponent and that fraction has the shifted significand for a value. -/
theorem unitsOfOrdinal_significand : unitsOfOrdinal (k * fractionCount + m) = m <<< k := by
  obtain ⟨hlow, hhigh⟩ := h
  have hpos : 0 < fractionCount := by decide
  -- the leading bit of the significand counts as one more exponent
  have hsplit : k * fractionCount + m = (m - fractionCount) + fractionCount * (k + 1) := by
    rw [Nat.mul_add, Nat.mul_comm k]
    omega
  have hsmall : m - fractionCount < fractionCount := by omega
  have hexponent : (k * fractionCount + m) / fractionCount = k + 1 := by
    rw [hsplit, Nat.add_mul_div_left _ _ hpos, Nat.div_eq_of_lt hsmall, Nat.zero_add]
  have hfraction : (k * fractionCount + m) % fractionCount = m - fractionCount := by
    rw [hsplit, Nat.add_mul_mod_self_left, Nat.mod_eq_of_lt hsmall]
  have hwhole : fractionCount + (m - fractionCount) = m := by omega
  have hnormal : ¬k * fractionCount + m < fractionCount := by omega
  rw [unitsOfOrdinal, if_neg hnormal, hexponent, hfraction, hwhole, Nat.add_sub_cancel]

end Exact

/-- A number up to `2 ^ 53` has a significand, if it is shifted far enough. -/
theorem exists_significand {n p : Nat} (hpos : 0 < n) (hle : n ≤ 2 * fractionCount) (hlow : 52 ≤ p)
    (hhigh : p ≤ 2044) : ∃ m k, Significand m ∧ k ≤ 2045 ∧ n <<< p = m <<< k := by
  have hnonzero : n ≠ 0 := Nat.ne_of_gt hpos
  have hfraction : fractionCount = 2 ^ 52 := by decide
  by_cases htop : n = 2 * fractionCount
  · refine ⟨fractionCount, p + 1, ⟨Nat.le_refl _, by decide⟩, by omega, ?_⟩
    rw [htop, Nat.shiftLeft_eq, Nat.shiftLeft_eq, Nat.pow_succ', ← Nat.mul_assoc,
      Nat.mul_comm fractionCount 2]
  · have hbelow := Nat.log2_self_le hnonzero
    have habove := @Nat.lt_log2_self n
    have hlog : n.log2 < 53 := by
      rw [Nat.log2_lt hnonzero, Nat.pow_succ, ← hfraction]
      omega
    -- the number is shifted until its leading bit is the last but 52
    refine ⟨n * 2 ^ (52 - n.log2), p - 52 + n.log2, ⟨?_, ?_⟩, by omega, ?_⟩
    · calc fractionCount = 2 ^ n.log2 * 2 ^ (52 - n.log2) := by
            rw [hfraction, ← Nat.pow_add]
            congr 1
            omega
        _ ≤ n * 2 ^ (52 - n.log2) := Nat.mul_le_mul_right _ hbelow
    · calc n * 2 ^ (52 - n.log2) < 2 ^ (n.log2 + 1) * 2 ^ (52 - n.log2) :=
            Nat.mul_lt_mul_of_pos_right habove (Nat.two_pow_pos _)
        _ = 2 * fractionCount := by
            rw [hfraction, ← Nat.pow_succ', ← Nat.pow_add]
            congr 1
            omega
    · rw [Nat.shiftLeft_eq, Nat.shiftLeft_eq, Nat.mul_assoc, ← Nat.pow_add]
      congr 2
      omega

/-- Magnitudes up to `2 ^ 53` are rounded to themselves. -/
theorem unitsOfOrdinal_ordinalOfUnits {n : Nat} (h : n ≤ 2 * fractionCount) :
    unitsOfOrdinal (ordinalOfUnits (n * unitsPerOne) 1) = n * unitsPerOne := by
  rcases Nat.eq_zero_or_pos n with rfl | hpos
  · rw [Nat.zero_mul]
    decide
  · -- the exponent is a variable, so that no step computes its power
    obtain ⟨p, hp⟩ : ∃ p, p = 1074 := ⟨_, rfl⟩
    have hunits : n * unitsPerOne = n <<< p := by
      rw [unitsPerOne, ← hp, Nat.one_shiftLeft, Nat.shiftLeft_eq]
    obtain ⟨m, k, hm, hk, hshift⟩ := exists_significand hpos h (show 52 ≤ p by omega) (by omega)
    rw [hunits, hshift, ordinalOfUnits_significand hm k hk, unitsOfOrdinal_significand hm k]

/-- The value of an integer up to a magnitude of `2 ^ 53` is kept. -/
theorem units_ofInt_exact {i : Int} (h : i.natAbs ≤ 2 * fractionCount) :
    (ofInt i).units = i * (unitsPerOne : Int) := by
  rw [units_ofInt, unitsOfOrdinal_ordinalOfUnits h, Int.natCast_mul]
  split
  · rw [← Int.neg_mul]
    congr 1
    omega
  · congr 1
    omega

/-- Integers up to a magnitude of `2 ^ 53` are told apart by their numbers. -/
theorem eq_of_ofInt_eq {i j : Int} (hi : i.natAbs ≤ 2 * fractionCount)
    (hj : j.natAbs ≤ 2 * fractionCount) (h : (ofInt i).eq (ofInt j) = true) : i = j := by
  have hunits : (ofInt i).units = (ofInt j).units := by simpa [eq] using h
  rw [units_ofInt_exact hi, units_ofInt_exact hj] at hunits
  have hone : (unitsPerOne : Int) ≠ 0 := by decide
  exact Int.eq_of_mul_eq_mul_right hone hunits

end ScriptRealm.Binary64
