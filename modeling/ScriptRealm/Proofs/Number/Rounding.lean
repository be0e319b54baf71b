import ScriptRealm.Proofs.Number.Nearest

/-!
# Rounding

The exact value of a finite double is a rational number. A rational number rounds to the finite
double nearest to it, of two equally near ones to the even one, and from half a step above the
greatest finite double upward to an infinity. `nearest` rounds quotients in this sense, and apart
from the sign of zero a rational number rounds to one double only. Integers round to integers.
-/

namespace ScriptRealm

namespace Binary64

/-! ## Magnitudes -/

/-- One unit is the power of two with this exponent, negated. -/
def unitExponent : Nat := 1074

theorem unitsPerOne_eq : unitsPerOne = 2 ^ unitExponent := Nat.one_shiftLeft unitExponent

theorem unitsPerOne_pos : (0 : ℚ) < unitsPerOne := by
  have hpos : 0 < unitsPerOne := by decide
  exact_mod_cast hpos

/-- The magnitude that an ordinal denotes. -/
def ordinalValue (n : Nat) : ℚ :=
  unitsOfOrdinal n / unitsPerOne

theorem ordinalValue_nonneg (n : Nat) : 0 ≤ ordinalValue n :=
  div_nonneg (Nat.cast_nonneg _) unitsPerOne_pos.le

theorem ordinalValue_zero : ordinalValue 0 = 0 := by
  have hzero : unitsOfOrdinal 0 = 0 := rfl
  rw [ordinalValue, hzero, Nat.cast_zero, zero_div]

/-- Magnitudes grow with their ordinals. -/
theorem strictMono_ordinalValue : StrictMono ordinalValue := by
  intro a b h
  rw [ordinalValue, ordinalValue, div_lt_div_iff_of_pos_right unitsPerOne_pos, Nat.cast_lt]
  exact strictMono_unitsOfOrdinal h

/-- Distances can be compared in units. -/
theorem abs_ordinalValue_sub (n : Nat) (q : ℚ) :
    |ordinalValue n - q| = |(unitsOfOrdinal n : ℚ) - q * unitsPerOne| / unitsPerOne := by
  have hone := unitsPerOne_pos
  rw [← abs_of_pos hone, ← abs_div, sub_div, abs_of_pos hone, mul_div_cancel_right₀ _ hone.ne',
    ordinalValue]

/-- The magnitude half a step above the greatest finite double. -/
def overflowThreshold : ℚ := 2 ^ 1024 - 2 ^ 970

/-- The magnitude of the infinities is half a step above the threshold, and the greatest finite one
half a step below it. -/
theorem exists_step_at_threshold : ∃ step : ℚ, 0 < step ∧
    ordinalValue infinityOrdinal = overflowThreshold + step ∧
    ordinalValue (infinityOrdinal - 1) = overflowThreshold - step := by
  have hinfinity :
      infinityOrdinal = (971 + unitExponent) * fractionCount + 2 * fractionCount := by decide
  have hgreatest : infinityOrdinal - 1 =
      (971 + unitExponent) * fractionCount + (2 * fractionCount - 1) := by decide
  have hbound : ((2 * fractionCount - 1 : Nat) : ℚ) = 2 * fractionCount - 1 := by
    rw [Nat.cast_sub (by decide), Nat.cast_mul, Nat.cast_ofNat, Nat.cast_one]
  -- both magnitudes are in the last run of the finite ones
  have hunits : ∀ r : Nat, r ≤ 2 * fractionCount → fractionCount ≤ r →
      ordinalValue ((971 + unitExponent) * fractionCount + r) = r * (2 * 2 ^ 970) := by
    intro r hr hfirst
    have hpower : (2 : ℚ) ^ (971 + unitExponent) = 2 * 2 ^ 970 * (2 ^ unitExponent : Nat) := by
      rw [pow_add, Nat.cast_pow, Nat.cast_ofNat, ← pow_succ']
    rw [ordinalValue, unitsOfOrdinal_run hr (.inr hfirst), Nat.cast_mul, Nat.cast_pow,
      Nat.cast_ofNat, hpower, ← unitsPerOne_eq, ← mul_assoc,
      mul_div_cancel_right₀ _ unitsPerOne_pos.ne']
  have hhigh : (2 : ℚ) ^ 1024 = 4 * fractionCount * 2 ^ 970 := by
    have hsplit : (2 : ℚ) ^ 1024 = 2 ^ 54 * 2 ^ 970 := pow_add 2 54 970
    rw [hsplit, fractionCount_eq]
    norm_num
  have hpos : (0 : ℚ) < 2 ^ 970 := by positivity
  unfold overflowThreshold
  rw [hgreatest, hinfinity, hunits _ (Nat.le_refl _) (by decide),
    hunits _ (by decide) (by decide), hhigh, hbound, Nat.cast_mul, Nat.cast_ofNat]
  generalize (2 : ℚ) ^ 970 = step at hpos
  exact ⟨step, hpos, by ring, by ring⟩

/-! ## The nearest magnitude -/

theorem cast_units_div (num den : Nat) :
    ((num * unitsPerOne : Nat) : ℚ) / den = num / den * unitsPerOne := by
  rw [Nat.cast_mul, mul_div_right_comm]

section Nearest

variable (num : Nat) {den : Nat} (hden : 0 < den)
include hden

/-- No other ordinal has a magnitude nearer to the quotient. -/
theorem ordinalValue_nearest {k : Nat} (hk : k ≤ infinityOrdinal) :
    |ordinalValue (ordinalOfUnits (num * unitsPerOne) den) - num / den| ≤
      |ordinalValue k - num / den| := by
  have hnearest := ordinalOfUnits_nearest (num * unitsPerOne) hden hk
  rw [cast_units_div] at hnearest
  rw [abs_ordinalValue_sub, abs_ordinalValue_sub, div_le_div_iff_of_pos_right unitsPerOne_pos]
  exact hnearest

/-- Between two that are equally near, the even ordinal is taken. -/
theorem even_of_ordinalValue_tie {k : Nat} (hk : k ≠ ordinalOfUnits (num * unitsPerOne) den)
    (htie : |ordinalValue k - num / den| =
      |ordinalValue (ordinalOfUnits (num * unitsPerOne) den) - num / den|) :
    Even (ordinalOfUnits (num * unitsPerOne) den) := by
  rw [abs_ordinalValue_sub, abs_ordinalValue_sub, div_left_inj' unitsPerOne_pos.ne',
    ← cast_units_div] at htie
  exact even_ordinalOfUnits _ hden hk htie

/-- Rounding gives a finite double exactly below the threshold. -/
theorem ordinalOfUnits_lt_infinityOrdinal_iff :
    ordinalOfUnits (num * unitsPerOne) den < infinityOrdinal ↔
      (num : ℚ) / den < overflowThreshold := by
  obtain ⟨step, hstep, hinfinity, hgreatest⟩ := exists_step_at_threshold
  have hle : ordinalOfUnits (num * unitsPerOne) den ≤ infinityOrdinal := Nat.min_le_right _ _
  have hnearest := fun {k} => ordinalValue_nearest num hden (k := k)
  have heven := fun {k} => even_of_ordinalValue_tie num hden (k := k)
  generalize ordinalOfUnits (num * unitsPerOne) den = o at *
  generalize (num : ℚ) / den = q at *
  constructor
  · intro hlt
    have hfinite : ordinalValue o ≤ overflowThreshold - step := by
      rw [← hgreatest]
      exact strictMono_ordinalValue.monotone (by omega)
    by_contra hbeyond
    -- the infinity is at least as near as the finite double, so that the two are equally near
    have hinfinite : |overflowThreshold + step - q| ≤ q - (overflowThreshold - step) := by
      rw [abs_le]
      constructor <;> linarith
    have hnear := hnearest (Nat.le_refl infinityOrdinal)
    rw [hinfinity, abs_sub_comm, abs_of_nonneg (by linarith)] at hnear
    have hordinal : o = infinityOrdinal - 1 := by
      apply strictMono_ordinalValue.injective
      linarith
    have htie : |ordinalValue infinityOrdinal - q| = |ordinalValue o - q| := by
      rw [hinfinity, abs_sub_comm (ordinalValue o), abs_of_nonneg (by linarith : 0 ≤ q - _)]
      linarith
    have hparity := heven (by omega) htie
    rw [hordinal] at hparity
    exact absurd hparity (by decide)
  · intro hbelow
    refine lt_of_le_of_ne hle fun hinfinite => ?_
    have hnear := hnearest (Nat.sub_le infinityOrdinal 1)
    rw [hinfinite, hinfinity, hgreatest, abs_of_pos (by linarith)] at hnear
    have hcloser : |overflowThreshold - step - q| < overflowThreshold + step - q := by
      rw [abs_lt]
      constructor <;> linarith
    linarith

end Nearest

/-! ## Exact values -/

/-- A magnitude with a sign. -/
def signed (negative : Bool) (q : ℚ) : ℚ :=
  if negative then -q else q

theorem abs_signed (negative : Bool) (q : ℚ) : |signed negative q| = |q| := by
  cases negative
  · rfl
  · exact abs_neg q

/-- Magnitudes of one sign are as far apart as without it, and those of different signs lie on the
two sides of zero. -/
theorem abs_signed_sub_signed (a b : Bool) {p q : ℚ} (hp : 0 ≤ p) (hq : 0 ≤ q) :
    |signed a p - signed b q| = if a = b then |p - q| else p + q := by
  have hsum : |p + q| = p + q := abs_of_nonneg (add_nonneg hp hq)
  have hflip : |-p - q| = p + q := by rw [← abs_neg, neg_sub, sub_neg_eq_add, add_comm, hsum]
  have hminus : |-p + q| = |p - q| := by rw [← abs_neg, neg_add_rev, neg_neg, neg_add_eq_sub]
  cases a <;> cases b <;> simp [signed, hsum, hflip, hminus]

/-- The exact value of a finite double. -/
def value (x : Binary64) : ℚ :=
  x.units / unitsPerOne

/-- The value is the magnitude with its sign. -/
theorem value_eq (x : Binary64) : x.value = signed x.negative (ordinalValue x.ordinal) := by
  unfold value units magnitude signed ordinalValue
  split
  · rw [Int.cast_neg, Int.cast_natCast, neg_div]
  · rw [Int.cast_natCast]

/-- The distance to a number of the other sign goes through zero. -/
theorem abs_value_sub_signed (x : Binary64) (negative : Bool) {q : ℚ} (hq : 0 ≤ q) :
    |x.value - signed negative q| =
      if x.negative = negative then |ordinalValue x.ordinal - q|
      else ordinalValue x.ordinal + q := by
  rw [x.value_eq, abs_signed_sub_signed _ _ (ordinalValue_nonneg _) hq]

theorem value_ofOrdinal (negative : Bool) {n : Nat} (h : n < signWeight) :
    (ofOrdinal negative n).value = signed negative (ordinalValue n) := by
  rw [value_eq, negative_ofOrdinal negative h, ordinal_ofOrdinal negative h]

theorem abs_value (x : Binary64) : |x.value| = ordinalValue x.ordinal := by
  rw [value_eq, abs_signed, abs_of_nonneg (ordinalValue_nonneg _)]

/-- Integral values are whole multiples of the units of one. -/
theorem value_eq_intCast_iff {x : Binary64} {i : ℤ} :
    x.value = i ↔ x.units = i * (unitsPerOne : ℤ) := by
  rw [value, div_eq_iff unitsPerOne_pos.ne']
  exact_mod_cast Iff.rfl

theorem value_zero (negative : Bool) : (zero negative).value = 0 := by
  rw [zero, value_ofOrdinal negative (by decide), ordinalValue_zero, signed, neg_zero, ite_self]

theorem isFinite_ofOrdinal (negative : Bool) {n : Nat} (h : n < infinityOrdinal) :
    (ofOrdinal negative n).isFinite = true := by
  rw [isFinite, ordinal_ofOrdinal negative (h.trans infinityOrdinal_lt_signWeight)]
  exact decide_eq_true h

theorem isFinite_zero (negative : Bool) : (zero negative).isFinite = true :=
  isFinite_ofOrdinal negative (by decide)

theorem isFinite_infinity (negative : Bool) : (infinity negative).isFinite = false := by
  cases negative <;> decide

/-- The finite doubles are those whose ordinals are below that of infinity. -/
theorem ordinal_lt_of_isFinite {x : Binary64} (h : x.isFinite = true) :
    x.ordinal < infinityOrdinal := of_decide_eq_true h

/-- Doubles of one value are the same, but for the two zeros. -/
theorem eq_of_value_eq {x y : Binary64} (h : x.value = y.value) (hne : x.value ≠ 0) : x = y := by
  have hordinal : x.ordinal = y.ordinal := by
    apply strictMono_ordinalValue.injective
    rw [← abs_value, ← abs_value, h]
  have hsign : x.negative = y.negative := by
    have hpos : 0 < ordinalValue x.ordinal := by
      rw [← abs_value]
      exact abs_pos.2 hne
    rw [value_eq, value_eq, ← hordinal] at h
    cases hx : x.negative <;> cases hy : y.negative <;> simp [signed, hx, hy] at h ⊢ <;> linarith
  rw [x.eq_ofOrdinal, y.eq_ofOrdinal, hordinal, hsign]

/-! ## Roundings -/

/-- A rational number rounds to a double: to the nearest one, of two equally near ones to the even
one. -/
inductive RoundsTo (v : ℚ) : Binary64 → Prop where
  | overflow (h : overflowThreshold ≤ |v|) : RoundsTo v (infinity (decide (v < 0)))
  | finite {x : Binary64} (h : |v| < overflowThreshold) (hfinite : x.isFinite = true)
      (nearest : ∀ y : Binary64, y.isFinite = true → |x.value - v| ≤ |y.value - v|)
      (even : ∀ y : Binary64, y.isFinite = true → y.value ≠ x.value →
        |y.value - v| = |x.value - v| → Even x.ordinal) : RoundsTo v x

theorem overflowThreshold_pos : 0 < overflowThreshold := by
  have hpower : (2 : ℚ) ^ 970 < 2 ^ 1024 := pow_lt_pow_right₀ (by norm_num) (by norm_num)
  exact sub_pos.2 hpower

/-- Magnitudes from the threshold upward round to the infinity of their sign. -/
theorem roundsTo_infinity (negative : Bool) {q : ℚ} (h : overflowThreshold ≤ q) :
    RoundsTo (signed negative q) (infinity negative) := by
  have hpos : 0 < q := overflowThreshold_pos.trans_le h
  have hsign : decide (signed negative q < 0) = negative := by
    cases negative <;> simp [signed] <;> linarith
  have hlarge : overflowThreshold ≤ |signed negative q| := by rwa [abs_signed, abs_of_pos hpos]
  have hoverflow := RoundsTo.overflow hlarge
  rwa [hsign] at hoverflow

/-- `nearest` rounds a quotient with a sign. -/
theorem roundsTo_nearest (negative : Bool) (num : Nat) {den : Nat} (hden : 0 < den) :
    RoundsTo (signed negative ((num : ℚ) / den)) (nearest negative num den) := by
  have hlt := ordinalOfUnits_lt (num * unitsPerOne) den
  have hle : ordinalOfUnits (num * unitsPerOne) den ≤ infinityOrdinal := Nat.min_le_right _ _
  have hiff := ordinalOfUnits_lt_infinityOrdinal_iff num hden
  have hnearest := fun {k} => ordinalValue_nearest num hden (k := k)
  have heven := fun {k} => even_of_ordinalValue_tie num hden (k := k)
  have hq : 0 ≤ (num : ℚ) / den := div_nonneg (Nat.cast_nonneg _) (Nat.cast_nonneg _)
  rw [nearest]
  generalize ordinalOfUnits (num * unitsPerOne) den = o at *
  generalize (num : ℚ) / den = q at *
  have hvalue := value_ofOrdinal negative hlt
  by_cases hsmall : q < overflowThreshold
  · -- zero is one of the candidates, so that the number is no further away than from zero
    have hcenter : |ordinalValue o - q| ≤ q := by
      have hzero := hnearest (Nat.zero_le infinityOrdinal)
      rwa [ordinalValue_zero, zero_sub, abs_neg, abs_of_nonneg hq] at hzero
    have hdistance := fun y => abs_value_sub_signed y negative hq
    have hself : |(ofOrdinal negative o).value - signed negative q| = |ordinalValue o - q| := by
      rw [hdistance, negative_ofOrdinal negative hlt, ordinal_ofOrdinal negative hlt, if_pos rfl]
    refine .finite ?_ (isFinite_ofOrdinal negative (hiff.2 hsmall)) ?_ ?_
    · rwa [abs_signed, abs_of_nonneg hq]
    · intro y hy
      rw [hself, hdistance]
      split
      · exact hnearest (ordinal_lt_of_isFinite hy).le
      · linarith [ordinalValue_nonneg y.ordinal]
    · intro y hy hne htie
      rw [hself, hdistance] at htie
      rw [ordinal_ofOrdinal negative hlt]
      rw [hvalue, y.value_eq] at hne
      split at htie
      · rename_i hsign
        refine heven (fun hordinal => hne ?_) htie
        rw [hsign, hordinal]
      · -- equally near doubles of the other sign are zeros
        have hflat : ordinalValue y.ordinal = 0 := by linarith [ordinalValue_nonneg y.ordinal]
        refine heven (k := 0) (fun hordinal => hne ?_) ?_
        · rw [hflat, ← hordinal, ordinalValue_zero, signed, signed, neg_zero, ite_self, ite_self]
        · rw [ordinalValue_zero, zero_sub, abs_neg, abs_of_nonneg hq, ← htie, hflat, zero_add]
  · have hlarge : overflowThreshold ≤ q := le_of_not_gt hsmall
    obtain rfl : o = infinityOrdinal := le_antisymm hle (not_lt.1 fun h => hsmall (hiff.1 h))
    exact roundsTo_infinity negative hlarge

/-! ## One rounding -/

/-- Between two doubles with even ordinals there is another double. -/
theorem exists_between {x y : Binary64} (hx : x.isFinite = true) (hy : y.isFinite = true)
    (hxeven : Even x.ordinal) (hyeven : Even y.ordinal) (hlt : x.value < y.value) :
    ∃ z : Binary64, z.isFinite = true ∧ x.value < z.value ∧ z.value < y.value := by
  have hxbound := ordinal_lt_of_isFinite hx
  have hybound := ordinal_lt_of_isFinite hy
  have hweight := infinityOrdinal_lt_signWeight
  rcases lt_or_ge x.value 0 with hxneg | hxpos
  · rcases lt_or_ge 0 y.value with hypos | hyneg
    · exact ⟨zero false, isFinite_zero false, by rwa [value_zero], by rwa [value_zero]⟩
    · -- both are not positive: the next magnitude after that of the upper one
      have hordinal : y.ordinal < x.ordinal := by
        rw [← strictMono_ordinalValue.lt_iff_lt, ← abs_value, ← abs_value, abs_of_neg hxneg,
          abs_of_nonpos hyneg]
        linarith
      have hgap : y.ordinal + 1 < x.ordinal := by
        rw [Nat.even_iff] at hxeven hyeven
        omega
      refine ⟨ofOrdinal true (y.ordinal + 1), isFinite_ofOrdinal true (by omega), ?_, ?_⟩
      · rw [value_ofOrdinal true (by omega), signed, if_pos rfl, lt_neg, ← abs_of_neg hxneg,
          abs_value]
        exact strictMono_ordinalValue hgap
      · rw [value_ofOrdinal true (by omega), signed, if_pos rfl, neg_lt, ← abs_of_nonpos hyneg,
          abs_value]
        exact strictMono_ordinalValue (Nat.lt_succ_self _)
  · have hypos : 0 < y.value := hxpos.trans_lt hlt
    have hordinal : x.ordinal < y.ordinal := by
      rw [← strictMono_ordinalValue.lt_iff_lt, ← abs_value, ← abs_value, abs_of_pos hypos,
        abs_of_nonneg hxpos]
      exact hlt
    have hgap : x.ordinal + 1 < y.ordinal := by
      rw [Nat.even_iff] at hxeven hyeven
      omega
    refine ⟨ofOrdinal false (x.ordinal + 1), isFinite_ofOrdinal false (by omega), ?_, ?_⟩
    · rw [value_ofOrdinal false (by omega), signed, if_neg (by decide), ← abs_of_nonneg hxpos,
        abs_value]
      exact strictMono_ordinalValue (Nat.lt_succ_self _)
    · rw [value_ofOrdinal false (by omega), signed, if_neg (by decide), ← abs_of_pos hypos,
        abs_value]
      exact strictMono_ordinalValue hgap

namespace RoundsTo

variable {v : ℚ} {x y : Binary64}

/-- What rounds to a finite double is what lies below the threshold of overflow. -/
theorem isFinite_iff (h : RoundsTo v x) : x.isFinite = true ↔ |v| < overflowThreshold := by
  cases h with
  | overflow h => simp [isFinite_infinity, h]
  | finite h hfinite => simp [hfinite, h]

/-- No finite double is nearer than the one that a number rounds to. -/
theorem nearest (h : RoundsTo v x) (hx : x.isFinite = true) (hy : y.isFinite = true) :
    |x.value - v| ≤ |y.value - v| := by
  cases h with
  | overflow => rw [isFinite_infinity] at hx; cases hx
  | finite _ _ nearest => exact nearest y hy

/-- Rounding does not cross a double, neither upwards nor downwards. -/
theorem le_of_le (h : RoundsTo v x) (hx : x.isFinite = true) (hy : y.isFinite = true)
    (hle : v ≤ y.value) : x.value ≤ y.value := by
  have hnear := h.nearest hx hy
  by_contra hlt
  rw [abs_of_nonneg (by linarith), abs_of_nonneg (by linarith)] at hnear
  linarith

theorem ge_of_ge (h : RoundsTo v x) (hx : x.isFinite = true) (hy : y.isFinite = true)
    (hge : y.value ≤ v) : y.value ≤ x.value := by
  have hnear := h.nearest hx hy
  by_contra hlt
  rw [abs_of_nonpos (by linarith), abs_of_nonpos (by linarith)] at hnear
  linarith

/-- A number with an exact double rounds to it. -/
theorem eq_of_exact (h : RoundsTo y.value x) (hx : x.isFinite = true) (hy : y.isFinite = true) :
    x.value = y.value :=
  le_antisymm (h.le_of_le hx hy le_rfl) (h.ge_of_ge hx hy le_rfl)

/-- Two finite roundings of a number have the same value. -/
theorem value_eq_of_finite (hx : RoundsTo v x) (hy : RoundsTo v y) (hxfinite : x.isFinite = true) :
    x.value = y.value := by
  have hyfinite : y.isFinite = true := hy.isFinite_iff.2 (hx.isFinite_iff.1 hxfinite)
  have hequal := le_antisymm (hx.nearest hxfinite hyfinite) (hy.nearest hyfinite hxfinite)
  by_contra hne
  -- both would be equally near on the two sides, and even
  have hxeven : Even x.ordinal := by
    cases hx with
    | overflow => rw [isFinite_infinity] at hxfinite; cases hxfinite
    | finite _ _ _ even => exact even y hyfinite (Ne.symm hne) hequal.symm
  have hyeven : Even y.ordinal := by
    cases hy with
    | overflow => rw [isFinite_infinity] at hyfinite; cases hyfinite
    | finite _ _ _ even => exact even x hxfinite hne hequal
  have hsides : ∀ {a b : Binary64}, a.isFinite = true → RoundsTo v a → b.isFinite = true →
      Even a.ordinal → Even b.ordinal → |a.value - v| = |b.value - v| → ¬a.value < b.value := by
    intro a b ha hround hb haeven hbeven habs hlt
    obtain ⟨z, hz, haz, hzb⟩ := exists_between ha hb haeven hbeven hlt
    have hnear := hround.nearest ha hz
    rcases abs_eq_abs.1 habs with hsame | hopposite
    · linarith
    · rw [abs_of_nonpos (by linarith : a.value - v ≤ 0)] at hnear
      rcases abs_cases (z.value - v) with ⟨hcase, -⟩ | ⟨hcase, -⟩ <;> linarith
  rcases lt_or_gt_of_ne hne with hlt | hgt
  · exact hsides hxfinite hx hyfinite hxeven hyeven hequal hlt
  · exact hsides hyfinite hy hxfinite hyeven hxeven hequal.symm hgt

/-- A rational number rounds to one double, apart from the sign of zero. -/
theorem unique (hx : RoundsTo v x) (hy : RoundsTo v y) :
    x = y ∨ x.isFinite = true ∧ y.isFinite = true ∧ x.value = 0 ∧ y.value = 0 := by
  by_cases hfinite : x.isFinite = true
  · have hvalue := hx.value_eq_of_finite hy hfinite
    by_cases hzero : x.value = 0
    · exact .inr ⟨hfinite, hy.isFinite_iff.2 (hx.isFinite_iff.1 hfinite), hzero, hvalue ▸ hzero⟩
    · exact .inl (eq_of_value_eq hvalue hzero)
  · left
    have hlarge := mt hx.isFinite_iff.2 hfinite
    cases hx with
    | finite h => exact absurd h hlarge
    | overflow =>
      cases hy with
      | finite h => exact absurd h hlarge
      | overflow => rfl

end RoundsTo

/-- A finite double is its own rounding. -/
theorem roundsTo_value {x : Binary64} (h : x.isFinite = true) : RoundsTo x.value x := by
  have hthreshold : |x.value| < overflowThreshold := by
    obtain ⟨step, hstep, -, hgreatest⟩ := exists_step_at_threshold
    have hle : ordinalValue x.ordinal ≤ ordinalValue (infinityOrdinal - 1) :=
      strictMono_ordinalValue.monotone (Nat.le_sub_one_of_lt (ordinal_lt_of_isFinite h))
    rw [abs_value]
    linarith
  refine .finite hthreshold h (fun y _ => ?_) fun y _ hne htie => ?_
  · rw [sub_self, abs_zero]
    exact abs_nonneg _
  · rw [sub_self, abs_zero, abs_eq_zero, sub_eq_zero] at htie
    exact absurd htie hne

/-! ## Integers -/

theorem signed_natAbs (i : ℤ) : signed (decide (i < 0)) (i.natAbs : ℚ) = i := by
  rw [Nat.cast_natAbs, signed]
  by_cases hneg : i < 0
  · rw [if_pos (decide_eq_true hneg), abs_of_neg hneg, Int.cast_neg, neg_neg]
  · rw [if_neg (by simpa using hneg), abs_of_nonneg (not_lt.1 hneg)]

/-- The conversion of integers rounds correctly. -/
theorem roundsTo_ofInt (i : ℤ) : RoundsTo i (ofInt i) := by
  have hround := roundsTo_nearest (decide (i < 0)) i.natAbs Nat.one_pos
  rwa [Nat.cast_one, div_one, signed_natAbs] at hround

/-- Integers of 64 bits are far below the threshold. -/
theorem intCast_lt_overflowThreshold {i : ℤ} (h : i.natAbs ≤ 2 ^ 64) :
    |(i : ℚ)| < overflowThreshold := by
  have hcast : |(i : ℚ)| ≤ 2 ^ 64 := by
    rw [← Int.cast_abs, Int.abs_eq_natAbs]
    exact_mod_cast h
  have hpower : (2 : ℚ) ^ 64 < 2 ^ 970 := pow_lt_pow_right₀ (by norm_num) (by norm_num)
  have hsplit : (2 : ℚ) ^ 1024 = 2 ^ 54 * 2 ^ 970 := pow_add 2 54 970
  unfold overflowThreshold
  rw [hsplit]
  generalize (2 : ℚ) ^ 970 = step at hpower
  linarith

theorem isFinite_ofInt {i : ℤ} (h : i.natAbs ≤ 2 ^ 64) : (ofInt i).isFinite = true :=
  (roundsTo_ofInt i).isFinite_iff.2 (intCast_lt_overflowThreshold h)

/-- Integers up to `2 ^ 53` in magnitude are doubles. -/
theorem value_ofInt {i : ℤ} (h : i.natAbs ≤ 2 * fractionCount) : (ofInt i).value = i :=
  value_eq_intCast_iff.2 (units_ofInt_exact h)

/-- From `2 ^ 53` upward all doubles are integers. -/
theorem exists_int_of_le_abs_value {x : Binary64} (h : (2 * fractionCount : ℚ) ≤ |x.value|) :
    ∃ i : ℤ, x.value = i := by
  have hbegin : ordinalValue ((unitExponent + 1 + 1) * fractionCount) = 2 * fractionCount := by
    rw [Nat.succ_mul, ordinalValue, unitsOfOrdinal_run (by omega) (.inr (Nat.le_refl _)),
      Nat.pow_succ', ← unitsPerOne_eq, Nat.cast_mul, Nat.cast_mul, Nat.cast_ofNat, ← mul_assoc,
      mul_div_cancel_right₀ _ unitsPerOne_pos.ne', mul_comm]
  rw [abs_value, ← hbegin, strictMono_ordinalValue.le_iff_le] at h
  have hdvd : unitsPerOne ∣ x.units.natAbs := by
    rw [natAbs_units, magnitude, unitsPerOne_eq]
    exact (Nat.pow_dvd_pow 2 (Nat.le_succ unitExponent)).trans (dvd_unitsOfOrdinal (.inr h))
  obtain ⟨i, hi⟩ := Int.ofNat_dvd_left.2 hdvd
  exact ⟨i, value_eq_intCast_iff.2 (by rw [hi, mul_comm])⟩

/-- An integer rounds to an integer. -/
theorem RoundsTo.exists_int {i : ℤ} {x : Binary64} (h : RoundsTo i x) (hx : x.isFinite = true) :
    ∃ j : ℤ, x.value = j := by
  by_cases hsmall : i.natAbs ≤ 2 * fractionCount
  · have hexact := value_ofInt hsmall
    rw [← hexact] at h
    exact ⟨i, (h.eq_of_exact hx (isFinite_ofInt (hsmall.trans (by decide)))).trans hexact⟩
  · -- the number lies beyond the double of `2 ^ 53` with its sign, which rounding does not cross
    have hcount : ((2 * fractionCount : Nat) : ℚ) = 2 * fractionCount := by rw [Nat.cast_mul]; rfl
    have hbound : ∀ s : ℤ, s.natAbs = 2 * fractionCount →
        (ofInt s).isFinite = true ∧ (ofInt s).value = s := by
      intro s hs
      exact ⟨isFinite_ofInt (hs.le.trans (by decide)), value_ofInt hs.le⟩
    apply exists_int_of_le_abs_value
    rcases lt_or_ge i 0 with hneg | hpos
    · obtain ⟨hfinite, hvalue⟩ := hbound (-(2 * fractionCount : Nat)) (by omega)
      have hle := h.le_of_le hx hfinite (by rw [hvalue]; exact_mod_cast (by omega))
      rw [hvalue, Int.cast_neg, Int.cast_natCast, hcount] at hle
      exact le_abs.2 (.inr (by linarith))
    · obtain ⟨hfinite, hvalue⟩ := hbound (2 * fractionCount : Nat) (by omega)
      have hle := h.ge_of_ge hx hfinite (by rw [hvalue]; exact_mod_cast (by omega))
      rw [hvalue, Int.cast_natCast, hcount] at hle
      exact le_abs.2 (.inl hle)

end Binary64

end ScriptRealm
