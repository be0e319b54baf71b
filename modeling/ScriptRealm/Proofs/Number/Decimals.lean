import ScriptRealm.Binary64.Shortest
import ScriptRealm.Proofs.Number.Grammar
import ScriptRealm.Proofs.Number.Rounding

/-!
# Values of decimals

The exact value of a literal, as a rational number. The double that is read from digits and a power
of ten is the rounding of their value: the bounds beyond which no power of ten is computed are
beyond the greatest double and below half of the least one.
-/

namespace ScriptRealm

/-! ## Runs of digits -/

namespace Numeral

theorem toNat_of_isDigit {c : Char} (h : c.isDigit = true) : 48 ≤ c.toNat ∧ c.toNat ≤ 57 := by
  simp only [Char.isDigit, Bool.and_eq_true, decide_eq_true_eq, UInt32.le_iff_toNat_le] at h
  exact h

theorem digitValue_lt {c : Char} (h : c.isDigit = true) : digitValue c < 10 := by
  obtain ⟨hlow, hhigh⟩ := toNat_of_isDigit h
  have hzero : '0'.toNat = 48 := rfl
  unfold digitValue
  omega

/-- Only the digit zero has the value zero. -/
theorem digitValue_pos {c : Char} (h : c.isDigit = true) (hne : c ≠ '0') : 0 < digitValue c := by
  obtain ⟨hlow, hhigh⟩ := toNat_of_isDigit h
  have hcode : c.toNat ≠ '0'.toNat := fun heq => hne (Char.toNat_inj.1 heq)
  have hzero : '0'.toNat = 48 := rfl
  unfold digitValue
  omega

/-- A numeral in two parts counts the first one by the places of the second. -/
theorem value_append (a b : List Char) : value (a ++ b) = value a * 10 ^ b.length + value b := by
  induction b using List.reverseRecOn with
  | nil => simp
  | append_singleton b c ih =>
    rw [← List.append_assoc, value_concat, ih, value_concat, List.length_append,
      List.length_singleton, pow_succ]
    ring

theorem value_singleton (c : Char) : value [c] = digitValue c := by
  simp [value]

theorem value_cons (c : Char) (digits : List Char) :
    value (c :: digits) = digitValue c * 10 ^ digits.length + value digits := by
  rw [← List.singleton_append, value_append, value_singleton]

/-- A numeral is below the power of ten of its length. -/
theorem value_lt {digits : List Char} (h : ∀ c ∈ digits, c.isDigit = true) :
    value digits < 10 ^ digits.length := by
  induction digits with
  | nil => simp
  | cons c digits ih =>
    have hdigit := digitValue_lt (h c (by simp))
    have hrest := ih fun d hd => h d (by simp [hd])
    rw [value_cons, List.length_cons, pow_succ]
    nlinarith

/-- A run of digits without leading zeros has a value of its length. -/
theorem le_value_cons {c : Char} {digits : List Char} (h : c.isDigit = true) (hne : c ≠ '0') :
    10 ^ digits.length ≤ value (c :: digits) := by
  rw [value_cons]
  calc 10 ^ digits.length ≤ digitValue c * 10 ^ digits.length :=
        Nat.le_mul_of_pos_left _ (digitValue_pos h hne)
    _ ≤ digitValue c * 10 ^ digits.length + value digits := Nat.le_add_right _ _

/-- Leading zeros do not count. -/
theorem value_replicate_zero_append (n : Nat) (digits : List Char) :
    value (List.replicate n '0' ++ digits) = value digits := by
  induction n with
  | zero => rfl
  | succ n ih =>
    have hzero : digitValue '0' = 0 := rfl
    rw [List.replicate_succ, List.cons_append, value_cons, ih, hzero, Nat.zero_mul, Nat.zero_add]

/-- Leading zeros count for nothing. -/
theorem value_dropWhile_zero (digits : List Char) :
    value (digits.dropWhile (· == '0')) = value digits := by
  induction digits with
  | nil => rfl
  | cons c digits ih =>
    by_cases hzero : c = '0'
    · have hvalue : digitValue '0' = 0 := rfl
      rw [List.dropWhile_cons_of_pos (by simp [hzero]), ih, value_cons, hzero, hvalue,
        Nat.zero_mul, Nat.zero_add]
    · rw [List.dropWhile_cons_of_neg (by simp [hzero])]

theorem cast_tenTo (n : Nat) : (tenTo n : ℚ) = 10 ^ n := by
  exact_mod_cast Nat.cast_pow 10 n

end Numeral

/-! ## Decimals -/

/-- The exact value of a decimal. -/
def Decimal.value (d : Decimal) : ℚ :=
  d.coefficient * 10 ^ d.exponent

/-- The exact value of a literal. -/
def Literal.value (l : Literal) : ℚ :=
  Binary64.signed l.negative
    (Decimal.value ⟨Numeral.value (l.whole ++ l.fraction), l.exponent - l.fraction.length⟩)

namespace Decimal

theorem scale_pos (exponent : ℤ) : (0 : ℚ) < 10 ^ exponent :=
  zpow_pos (by norm_num) exponent

theorem value_nonneg (d : Decimal) : 0 ≤ d.value :=
  mul_nonneg (Nat.cast_nonneg _) (scale_pos _).le

/-- The quotient that the reader works with is the value of the decimal. -/
theorem quotient_spec (d : Decimal) :
    0 < d.quotient.2 ∧ (d.quotient.1 : ℚ) / d.quotient.2 = d.value := by
  unfold quotient value
  split
  · rename_i hexponent
    refine ⟨Nat.one_pos, ?_⟩
    rw [Nat.cast_mul, Numeral.cast_tenTo, Nat.cast_one, div_one, ← zpow_natCast,
      Int.toNat_of_nonneg hexponent]
  · rename_i hexponent
    refine ⟨Nat.pow_pos (by decide), ?_⟩
    have hnegated : ((-d.exponent).toNat : ℤ) = -d.exponent := Int.toNat_of_nonneg (by omega)
    rw [Numeral.cast_tenTo, ← zpow_natCast, hnegated, zpow_neg, div_inv_eq_mul]

/-- The first digit of a decimal without leading zeros tells the power of ten that it lies at. -/
theorem value_bounds {c : Char} {rest : List Char} (h : ∀ d ∈ c :: rest, d.isDigit = true)
    (hne : c ≠ '0') (exponent : ℤ) :
    10 ^ (rest.length + exponent) ≤ value ⟨Numeral.value (c :: rest), exponent⟩ ∧
      value ⟨Numeral.value (c :: rest), exponent⟩ < 10 ^ (rest.length + 1 + exponent) := by
  have hlow : (10 : ℚ) ^ rest.length ≤ Numeral.value (c :: rest) := by
    exact_mod_cast Numeral.le_value_cons (h c (by simp)) hne
  have hhigh : (Numeral.value (c :: rest) : ℚ) < 10 ^ (rest.length + 1) := by
    exact_mod_cast Numeral.value_lt h
  have hscale := scale_pos exponent
  have hsplit : ∀ n : Nat, (10 : ℚ) ^ (n + exponent) = 10 ^ n * 10 ^ exponent := by
    intro n
    rw [zpow_add₀ (by norm_num), zpow_natCast]
  constructor
  · rw [hsplit]
    exact mul_le_mul_of_nonneg_right hlow hscale.le
  · have hlength := hsplit (rest.length + 1)
    rw [Nat.cast_succ] at hlength
    rw [hlength]
    exact mul_lt_mul_of_pos_right hhigh hscale

end Decimal

namespace Binary64

/-- The double nearest to the quotient is the rounding of the decimal. -/
theorem roundsTo_quotient (negative : Bool) (d : Decimal) :
    RoundsTo (signed negative d.value) (nearest negative d.quotient.1 d.quotient.2) := by
  obtain ⟨hpos, hvalue⟩ := d.quotient_spec
  rw [← hvalue]
  exact roundsTo_nearest negative _ hpos

/-- A decimal of at least `10 ^ 309` is beyond all finite doubles. -/
theorem overflowThreshold_le : overflowThreshold ≤ 10 ^ 309 := by
  have hpower : (2 : Nat) ^ 1024 ≤ 10 ^ 309 := by decide +kernel
  have hcast : (2 : ℚ) ^ 1024 ≤ 10 ^ 309 := by exact_mod_cast hpower
  have hpos : (0 : ℚ) < 2 ^ 970 := by positivity
  exact (sub_le_self _ hpos.le).trans hcast

/-- A decimal below `10 ^ -324` is below half of the least double. -/
theorem least_double_le : 2 * (unitsPerOne : ℚ) ≤ 10 ^ 324 := by
  have hpower : 2 * unitsPerOne ≤ 10 ^ 324 := by decide +kernel
  exact_mod_cast hpower

/-- Numbers below half of the least double round to zero. -/
theorem roundsTo_zero (negative : Bool) {q : ℚ} (h : |q| * (2 * unitsPerOne) < 1) :
    RoundsTo q (zero negative) := by
  have hone := unitsPerOne_pos
  have hbound : |q| < overflowThreshold := by
    have hsmall : |q| ≤ 1 := by
      have hunits : (1 : ℚ) ≤ 2 * unitsPerOne := by
        have hpos : 1 ≤ unitsPerOne := by decide
        have hcast : (1 : ℚ) ≤ unitsPerOne := by exact_mod_cast hpos
        linarith
      nlinarith [abs_nonneg q]
    have hint := intCast_lt_overflowThreshold (i := 1) (by decide)
    rw [Int.cast_one, abs_one] at hint
    exact hsmall.trans_lt hint
  refine .finite hbound (isFinite_zero negative) (fun y _ => ?_) fun y _ _ _ => ?_
  · rw [value_zero, zero_sub, abs_neg]
    by_cases hy : y.ordinal = 0
    · rw [y.value_eq, hy, ordinalValue_zero, signed, neg_zero, ite_self, zero_sub, abs_neg]
    · -- the least double is more than twice as far from zero as the number
      have hleast : 1 / unitsPerOne ≤ |y.value| := by
        have hmono := strictMono_ordinalValue.monotone (Nat.one_le_iff_ne_zero.2 hy)
        have hunit : unitsOfOrdinal 1 = 1 := rfl
        rwa [ordinalValue, hunit, Nat.cast_one, ← abs_value] at hmono
      have htwice : 2 * |q| < 1 / unitsPerOne := by
        rw [lt_div_iff₀ hone]
        linarith
      have htriangle := abs_sub_abs_le_abs_sub y.value q
      linarith
  · rw [zero, ordinal_ofOrdinal negative (by decide)]
    exact Even.zero

/-- Reading digits and a power of ten rounds their value. -/
theorem roundsTo_ofDecimal (negative : Bool) {digits : List Char}
    (hdigits : ∀ c ∈ digits, c.isDigit = true) (exponent : ℤ) :
    RoundsTo (signed negative (Decimal.value ⟨Numeral.value digits, exponent⟩))
      (ofDecimal negative digits exponent) := by
  have hten : (1 : ℚ) ≤ 10 := by norm_num
  rw [← Numeral.value_dropWhile_zero, ofDecimal]
  -- leading zeros are dropped first, so that the length tells the magnitude
  have hsignificant : ∀ c ∈ digits.dropWhile (· == '0'), c.isDigit = true :=
    fun c hc => hdigits c (List.dropWhile_subset _ hc)
  have hleading := List.head?_dropWhile_not (· == '0') digits
  generalize digits.dropWhile (· == '0') = significant at *
  cases significant with
  | nil =>
    have hzero := roundsTo_value (isFinite_zero negative)
    rw [value_zero] at hzero
    simpa [signed, Decimal.value] using hzero
  | cons c rest =>
    obtain ⟨hlow, hhigh⟩ := Decimal.value_bounds hsignificant (by simpa using hleading) exponent
    have hround := roundsTo_quotient negative ⟨Numeral.value (c :: rest), exponent⟩
    simp only [Decimal.quotient] at hround
    generalize Numeral.value (c :: rest) = n at *
    have hmagnitude : |signed negative (Decimal.value ⟨n, exponent⟩)| =
        Decimal.value ⟨n, exponent⟩ := by
      rw [abs_signed, abs_of_nonneg (Decimal.value_nonneg _)]
    simp only [List.isEmpty_cons, Bool.false_eq_true, if_false, List.length_cons, Nat.cast_succ]
    by_cases hhuge : 310 ≤ (rest.length : ℤ) + 1 + exponent
    · -- from 10 ^ 309 on, all decimals are beyond the threshold of overflow
      rw [if_pos hhuge]
      have hlarge : overflowThreshold ≤ Decimal.value ⟨n, exponent⟩ := by
        calc overflowThreshold ≤ 10 ^ (309 : ℤ) := by exact_mod_cast overflowThreshold_le
          _ ≤ 10 ^ (rest.length + exponent) := zpow_le_zpow_right₀ hten (by omega)
          _ ≤ Decimal.value ⟨n, exponent⟩ := hlow
      exact roundsTo_infinity negative hlarge
    · rw [if_neg hhuge]
      by_cases htiny : (rest.length : ℤ) + 1 + exponent ≤ -324
      · -- below 10 ^ (-324), all are nearer to zero than to the least double
        rw [if_pos htiny]
        apply roundsTo_zero
        rw [hmagnitude]
        have hscale := Decimal.scale_pos (-324)
        calc Decimal.value ⟨n, exponent⟩ * (2 * unitsPerOne)
            < 10 ^ (-324 : ℤ) * (2 * unitsPerOne) :=
              mul_lt_mul_of_pos_right (hhigh.trans_le (zpow_le_zpow_right₀ hten htiny))
                (mul_pos two_pos unitsPerOne_pos)
          _ ≤ 10 ^ (-324 : ℤ) * 10 ^ 324 := mul_le_mul_of_nonneg_left least_double_le hscale.le
          _ = 1 := by exact zpow_neg_mul_zpow_self 324 (by norm_num)
      · -- in between, the quotient is rounded as it stands
        rw [if_neg htiny]
        split <;> rename_i hexponent <;> simpa [hexponent] using hround

/-- A literal is read as the rounding of its value. -/
theorem roundsTo_toBinary64 {s : List Char} {l : Literal} (h : l.Written s) :
    RoundsTo l.value l.toBinary64 := by
  obtain ⟨sign, mantissa, exponent, -, -, hmantissa, -⟩ := h
  exact roundsTo_ofDecimal l.negative hmantissa.digits _

end Binary64

end ScriptRealm
