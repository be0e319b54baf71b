import ScriptRealm.Proofs.Value.Equality

/-!
# Normal forms of doubles

A finite double is its own rounding, so that a double whose value is an integer is what that integer
rounds to. Hence the normal form of a double is the same number in the comparison of doubles, and it
stands for the same position.
-/

namespace ScriptRealm

namespace Binary64

/-! ## Finite doubles -/

theorem isNaN_of_isFinite {x : Binary64} (h : x.isFinite = true) : x.isNaN = false := by
  simp only [isFinite, isNaN, decide_eq_true_eq, decide_eq_false_iff_not] at h ⊢
  omega

theorem isFinite_of_isNaN {x : Binary64} (h : x.isNaN = true) : x.isFinite = false := by
  simp only [isFinite, isNaN, decide_eq_true_eq, decide_eq_false_iff_not] at h ⊢
  omega

/-- A word is its sign with its ordinal. -/
theorem eq_ofOrdinal (x : Binary64) : x = ofOrdinal x.negative x.ordinal := by
  have hordinal : x.ordinal < signWeight := Nat.mod_lt _ (by decide)
  have hbits : x.bits.toNat < signWeight + signWeight := x.bits.toNat_lt
  have hword : x.bits.toNat = (ofOrdinal x.negative x.ordinal).bits.toNat := by
    rw [toNat_ofOrdinal _ hordinal]
    simp only [Binary64.negative, ordinal, decide_eq_true_eq]
    unfold signWeight at hbits ⊢
    split <;> omega
  exact congrArg Binary64.mk (UInt64.toNat_inj.1 hword)

theorem isInfinite_of_isFinite {x : Binary64} (h : x.isFinite = true) : x.isInfinite = false := by
  simp only [isFinite, isInfinite, decide_eq_true_eq, decide_eq_false_iff_not] at h ⊢
  omega

/-- A double is a NaN, an infinity, or finite. -/
theorem kind_cases (x : Binary64) :
    x.isNaN = true ∨ (∃ negative, x = infinity negative) ∨ x.isFinite = true := by
  rcases Nat.lt_trichotomy x.ordinal infinityOrdinal with hlt | heq | hgt
  · exact .inr (.inr (decide_eq_true hlt))
  · have hword := x.eq_ofOrdinal
    rw [heq] at hword
    exact .inr (.inl ⟨x.negative, hword⟩)
  · exact .inl (decide_eq_true hgt)

/-- The ordinal of a finite double is the one nearest to the magnitude that it denotes. -/
theorem ordinalOfUnits_unitsOfOrdinal {n : Nat} (h : n < infinityOrdinal) :
    ordinalOfUnits (unitsOfOrdinal n) 1 = n := by
  have hpos : 0 < fractionCount := by decide
  by_cases hsmall : n < fractionCount
  · -- up to the first run the spacing is one unit
    have hlog : n.log2 - 52 = 0 := by
      rcases Nat.eq_zero_or_pos n with rfl | hn
      · rfl
      · have hlt : n.log2 < 52 := (Nat.log2_lt (Nat.ne_of_gt hn)).2 hsmall
        omega
    have hround : roundDiv n 1 = n := by
      simpa using roundDiv_mul_right n Nat.one_pos
    rw [unitsOfOrdinal, if_pos hsmall, ordinalOfUnits, Nat.div_one, hlog]
    simp only [Nat.zero_mul, Nat.zero_add, Nat.shiftLeft_zero, hround]
    exact Nat.min_eq_left (Nat.le_of_lt h)
  · have hrun : n / fractionCount < 2047 := (Nat.div_lt_iff_lt_mul hpos).2 h
    have hfirst : 1 ≤ n / fractionCount := (Nat.one_le_div_iff hpos).2 (Nat.le_of_not_lt hsmall)
    have hrest : n % fractionCount < fractionCount := Nat.mod_lt _ hpos
    have hm : Significand (fractionCount + n % fractionCount) := ⟨by omega, by omega⟩
    have hsplit := Nat.div_add_mod n fractionCount
    obtain ⟨k, hk⟩ : ∃ k, n / fractionCount = k + 1 := ⟨n / fractionCount - 1, by omega⟩
    rw [unitsOfOrdinal, if_neg hsmall, ordinalOfUnits_significand hm _ (by omega), hk,
      Nat.add_sub_cancel]
    rw [hk, Nat.mul_succ, Nat.mul_comm] at hsplit
    omega

theorem natAbs_units (x : Binary64) : x.units.natAbs = x.magnitude := by
  unfold units
  split <;> simp

/-- An integer that a double denotes rounds to the value of that double. -/
theorem units_ofInt_of_units {x : Binary64} (hfinite : x.isFinite = true) {i : Int}
    (h : x.units = i * (unitsPerOne : Int)) : (ofInt i).units = x.units := by
  have hone : 0 < unitsPerOne := by decide
  have hmagnitude : i.natAbs * unitsPerOne = unitsOfOrdinal x.ordinal := by
    rw [← magnitude, ← natAbs_units, h, Int.natAbs_mul, Int.natAbs_natCast]
  have hordinal : x.ordinal < infinityOrdinal := by simpa [isFinite] using hfinite
  rw [units_ofInt, hmagnitude, ordinalOfUnits_unitsOfOrdinal hordinal, ← hmagnitude, h,
    Int.natCast_mul]
  split
  · rw [← Int.neg_mul]
    congr 1
    omega
  · congr 1
    omega

theorem floor_of_units {x : Binary64} {i : Int} (h : x.units = i * (unitsPerOne : Int)) :
    x.floor = i := by
  have hone : (unitsPerOne : Int) ≠ 0 := by decide
  rw [floor, h, Int.mul_ediv_cancel _ hone]

/-- A finite double is integral exactly if it denotes an integer. -/
theorem integral?_eq_some_iff {x : Binary64} {i : Int} :
    x.integral? = some i ↔ x.isFinite = true ∧ x.units = i * (unitsPerOne : Int) := by
  have hone : (unitsPerOne : Int) ≠ 0 := by decide
  have hdvd : x.magnitude % unitsPerOne = 0 ↔ (unitsPerOne : Int) ∣ x.units := by
    rw [← Nat.dvd_iff_mod_eq_zero, ← natAbs_units, ← Int.ofNat_dvd_left]
  unfold integral? floor
  split
  · rename_i hin
    simp only [Bool.and_eq_true, beq_iff_eq, hdvd] at hin
    obtain ⟨hfinite, j, hj⟩ := hin
    rw [hj, Int.mul_ediv_cancel_left _ hone, Int.mul_comm, Int.mul_eq_mul_right_iff hone]
    simp [hfinite]
  · rename_i hout
    simp only [Bool.and_eq_true, beq_iff_eq, hdvd] at hout
    simp only [reduceCtorEq, false_iff]
    rintro ⟨hfinite, hi⟩
    exact hout ⟨hfinite, i, by rw [hi, Int.mul_comm]⟩

/-- A double that is not zero by its ordinal is not zero by its value. -/
theorem units_ne_zero {x : Binary64} (h : x.ordinal ≠ 0) : x.units ≠ 0 := by
  have hmagnitude : x.magnitude ≠ 0 := by
    unfold magnitude unitsOfOrdinal
    split
    · exact h
    · have hpos : 0 < fractionCount := by decide
      rw [Nat.shiftLeft_eq]
      exact Nat.mul_ne_zero (by omega) (Nat.ne_of_gt (Nat.two_pow_pos _))
  intro hunits
  exact hmagnitude (by rw [← natAbs_units, hunits, Int.natAbs_zero])

end Binary64

/-! ## The cases of the normal form -/

open Binary64 in
/-- What a double comes to. -/
inductive Number.NormalForm (x : Binary64) : Number → Prop where
  | nan (h : x.isNaN = true) : NormalForm x .nan
  | positiveInfinity (h : x = infinity false) : NormalForm x .positiveInfinity
  | negativeInfinity (h : x = infinity true) : NormalForm x .negativeInfinity
  | integer {i : Int64} (hfinite : x.isFinite = true) (hlt : i.toInt.natAbs < signWeight)
      (h : x.units = i.toInt * (unitsPerOne : Int)) : NormalForm x (.integer i)
  /-- a fraction, or an integer beyond the range of integers -/
  | float (hfinite : x.isFinite = true)
      (h : ∀ i : Int, x.units = i * (unitsPerOne : Int) → signWeight ≤ i.natAbs) :
      NormalForm x (.float x)

namespace Number

theorem normalForm_ofBinary64 (x : Binary64) : NormalForm x (.ofBinary64 x) := by
  rcases x.kind_cases with hnan | ⟨negative, rfl⟩ | hfinite
  · rw [ofBinary64, if_pos hnan]
    exact .nan hnan
  · cases negative with
    | false => exact .positiveInfinity rfl
    | true => exact .negativeInfinity rfl
  have hnumber : ¬x.isNaN = true := by simp [Binary64.isNaN_of_isFinite hfinite]
  have hbounded : ¬x.isInfinite = true := by simp [Binary64.isInfinite_of_isFinite hfinite]
  rw [ofBinary64, if_neg hnumber, if_neg hbounded]
  cases hintegral : x.integral? with
  | none =>
    refine .float hfinite fun i hi => ?_
    rw [Binary64.integral?_eq_some_iff.2 ⟨hfinite, hi⟩] at hintegral
    cases hintegral
  | some i =>
    have hunits := (Binary64.integral?_eq_some_iff.1 hintegral).2
    simp only
    split
    · rename_i hlt
      have hweight : Binary64.signWeight = 2 ^ 63 := by decide
      have htoInt : (Int64.ofInt i).toInt = i :=
        Int64.toInt_ofInt_of_le (by omega) (by omega)
      exact .integer hfinite (htoInt.symm ▸ hlt) (htoInt.symm ▸ hunits)
    · rename_i hge
      refine .float hfinite fun j hj => ?_
      have hone : (Binary64.unitsPerOne : Int) ≠ 0 := by decide
      rw [← Int.eq_of_mul_eq_mul_right hone (hunits.symm.trans hj)]
      omega

/-! ## What the normal form keeps -/

/-- Doubles compare with the normal form of a double as with the double itself. -/
theorem toBinary64_ofBinary64_eq (x y : Binary64) : (ofBinary64 x).toBinary64.eq y = x.eq y := by
  have hform := normalForm_ofBinary64 x
  generalize ofBinary64 x = n at hform ⊢
  cases hform with
  | nan h => simp [toBinary64, Binary64.eq, h, Binary64.isNaN_nan]
  | positiveInfinity h => rw [h]; rfl
  | negativeInfinity h => rw [h]; rfl
  | integer hfinite hlt h =>
    have hunits := Binary64.units_ofInt_of_units hfinite h
    have hnumber := Binary64.isNaN_of_isFinite hfinite
    simp [toBinary64, Binary64.eq, hunits, hnumber]
  | float => rfl

theorem ofBinary64_eq_nan_iff (x : Binary64) : ofBinary64 x = .nan ↔ x.isNaN = true := by
  have hform := normalForm_ofBinary64 x
  generalize ofBinary64 x = n at hform ⊢
  have hnumber : ∀ s, (Binary64.infinity s).isNaN = false := by decide
  cases hform with
  | nan h => simp [h]
  | positiveInfinity h => simp [h, hnumber]
  | negativeInfinity h => simp [h, hnumber]
  | integer hfinite => simp [Binary64.isNaN_of_isFinite hfinite]
  | float hfinite => simp [Binary64.isNaN_of_isFinite hfinite]

/-- A double equals its normal form, unless it is a NaN. -/
theorem float_eq_ofBinary64_iff (x : Binary64) :
    (float x).eq (ofBinary64 x) = true ↔ x.isNaN = false := by
  rw [eq_iff, ← Binary64.eq_self_iff, Binary64.eq_comm, toBinary64_ofBinary64_eq]
  exact and_iff_left fun i j hi => by cases hi

/-- Equality with a third number differs where that number and the normal form are two integers that
round to one double. -/
theorem eq_ofBinary64_iff (x : Binary64) (n : Number) :
    (float x).eq n = (ofBinary64 x).eq n ↔
      (x.eq n.toBinary64 = true → (ofBinary64 x).IntegersAgree n) := by
  have hfloat : (float x).eq n = true ↔ x.eq n.toBinary64 = true := by
    rw [eq_iff]
    exact and_iff_left fun i j hi => by cases hi
  rw [Bool.eq_iff_iff, hfloat, eq_iff, toBinary64_ofBinary64_eq]
  exact iff_self_and

theorem index?_ofBinary64 (x : Binary64) : (ofBinary64 x).index? = (float x).index? := by
  have hform := normalForm_ofBinary64 x
  generalize ofBinary64 x = n at hform ⊢
  cases hform with
  | nan h => simp [index?, Binary64.isFinite_of_isNaN h]
  | positiveInfinity h => rw [h]; rfl
  | negativeInfinity h => rw [h]; rfl
  | @integer i hfinite hlt h =>
    have hweight : Binary64.signWeight + Binary64.signWeight = UInt64.size := by decide
    have hsmall : i.toInt.toNat < UInt64.size := by omega
    simp only [index?, Binary64.floor_of_units h, hfinite, Bool.true_and, decide_eq_true_eq,
      Bool.and_eq_true, Nat.le_of_lt hsmall, and_true]
    rw [Nat.min_eq_left (Nat.le_sub_one_of_lt hsmall)]
  | float => rfl

theorem isInteger_ofBinary64 (x : Binary64) : (ofBinary64 x).isInteger = (float x).isInteger := by
  have hform := normalForm_ofBinary64 x
  generalize ofBinary64 x = n at hform ⊢
  cases hform with
  | nan h => simp [isInteger, Binary64.integral?, Binary64.isFinite_of_isNaN h]
  | positiveInfinity h => rw [h]; rfl
  | negativeInfinity h => rw [h]; rfl
  | integer hfinite hlt h =>
    simp [isInteger, Binary64.integral?_eq_some_iff.2 ⟨hfinite, h⟩]
  | float => rfl

/-- Truth differs for a NaN only, which is true as a double. -/
theorem truth_ofBinary64_iff (x : Binary64) :
    (float x).truth = (ofBinary64 x).truth ↔ x.isNaN = false := by
  have hinfinity : ∀ s, (float (Binary64.infinity s)).truth = true := by
    intro s
    have hordinal : (Binary64.infinity s).ordinal ≠ 0 := by cases s <;> decide
    simp [truth, Binary64.units_ne_zero hordinal]
  have hnumber : ∀ s, (Binary64.infinity s).isNaN = false := by decide
  have hform := normalForm_ofBinary64 x
  generalize ofBinary64 x = n at hform ⊢
  cases hform with
  | nan h => simp [truth, h]
  | positiveInfinity h => rw [h, hinfinity, hnumber]; simp [truth]
  | negativeInfinity h => rw [h, hinfinity, hnumber]; simp [truth]
  | @integer i hfinite hlt h =>
    have hone : (Binary64.unitsPerOne : Int) ≠ 0 := by decide
    have hzero : i = 0 ↔ x.units = 0 := by
      rw [h, Int.mul_eq_zero, or_iff_left hone]
      exact Int64.toInt_inj.symm
    have hnumber := Binary64.isNaN_of_isFinite hfinite
    simp only [truth, hnumber, Bool.false_or, iff_true]
    rw [Bool.eq_iff_iff, bne_iff_ne, bne_iff_ne]
    exact not_congr hzero.symm
  | float hfinite => simp [Binary64.isNaN_of_isFinite hfinite]

end Number

end ScriptRealm
