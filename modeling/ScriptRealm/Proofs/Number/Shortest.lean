import ScriptRealm.Binary64.Layout
import ScriptRealm.Proofs.Number.Decimals

/-!
# Printed digits

The digits that a double is printed with stand for a decimal that rounds to the double. The layout
without an exponent is the mantissa of a literal, and has the value of the decimal that it lays out.
-/

namespace ScriptRealm

/-! ## Numerals -/

theorem Literal.Digits.append {a b : List Char} (ha : Digits a)
    (hb : ∀ c ∈ b, c.isDigit = true) : Digits (a ++ b) :=
  ⟨List.append_ne_nil_of_left_ne_nil ha.ne_nil _, List.forall_mem_append.2 ⟨ha.all, hb⟩⟩

namespace Numeral

theorem isDigit_zeros (n : Nat) : ∀ c ∈ List.replicate n '0', c.isDigit = true := by
  intro c hc
  rw [List.eq_of_mem_replicate hc]
  rfl

theorem isDigit_digitChar {d : Nat} (h : d < 10) : d.digitChar.isDigit = true := by
  match d, h with
  | 0, _ | 1, _ | 2, _ | 3, _ | 4, _ | 5, _ | 6, _ | 7, _ | 8, _ | 9, _ => rfl

/-- Numerals are made of digits. -/
theorem digits_numeral (n : Nat) : Literal.Digits (numeral n) := by
  fun_induction numeral n with
  | case1 n h => exact ⟨List.cons_ne_nil _ _, by simpa using isDigit_digitChar h⟩
  | case2 n h ih =>
    have hlast := isDigit_digitChar (Nat.mod_lt n (by decide : 0 < 10))
    exact ih.append (by simpa using hlast)

theorem value_append_replicate_zero (digits : List Char) (n : Nat) :
    value (digits ++ List.replicate n '0') = value digits * 10 ^ n := by
  have hzeros := value_replicate_zero_append n []
  rw [List.append_nil, value_nil] at hzeros
  rw [value_append, hzeros, List.length_replicate, Nat.add_zero]

end Numeral

/-! ## Shortest decimals -/

namespace Decimal

/-- Zeros that move to the exponent do not change the value. -/
theorem value_stripZeros (fuel : Nat) (d : Decimal) : (d.stripZeros fuel).value = d.value := by
  induction fuel generalizing d with
  | zero => rfl
  | succ fuel ih =>
    unfold stripZeros
    split
    · rename_i hzero
      have hten : (d.coefficient : ℚ) = (d.coefficient / 10 : Nat) * 10 := by
        exact_mod_cast (Nat.div_mul_cancel (Nat.dvd_of_mod_eq_zero hzero.2)).symm
      rw [ih, value, value, hten, zpow_add_one₀ (by norm_num)]
      ring
    · rfl

end Decimal

namespace Binary64

/-- The decimals of a grid are tried before they are taken. -/
theorem ordinal_of_onGrid? {target units : Nat} {exponent : ℤ} {d : Decimal}
    (h : onGrid? target units exponent = some d) : d.ordinal = target := by
  unfold onGrid? at h
  extract_lets num den below above at h
  split at h
  · rename_i hbelow
    split at h
    · rename_i habove
      exact Option.some.inj h ▸ habove.1
    · exact Option.some.inj h ▸ hbelow
  · split at h
    · rename_i habove
      exact Option.some.inj h ▸ habove
    · cases h

/-- A decimal of the search denotes the double of its ordinal. -/
theorem nearest_quotient (negative : Bool) (d : Decimal) :
    nearest negative d.quotient.1 d.quotient.2 = ofOrdinal negative d.ordinal := by
  rw [nearest, Decimal.ordinal]

/-- A unit is a power of two, so that it has a decimal expansion with a power of five. -/
theorem value_exactDecimal (units : Nat) :
    (exactDecimal units).value = (units : ℚ) / unitsPerOne := by
  have hexpansion : ∀ k : Nat,
      Decimal.value ⟨units * Nat.pow 5 k, -k⟩ = (units : ℚ) / (2 : ℚ) ^ k := by
    intro k
    have hpow : ((Nat.pow 5 k : Nat) : ℚ) = 5 ^ k := by exact_mod_cast Nat.cast_pow 5 k
    have hten : (10 : ℚ) ^ k = 5 ^ k * 2 ^ k := by rw [← mul_pow]; norm_num
    rw [Decimal.value, Nat.cast_mul, hpow, zpow_neg, zpow_natCast, hten, mul_inv, ← mul_assoc,
      mul_inv_cancel_right₀ (pow_ne_zero k (by norm_num)), div_eq_mul_inv]
  have hone : (unitsPerOne : ℚ) = 2 ^ unitExponent := by
    rw [unitsPerOne_eq]
    exact_mod_cast rfl
  have hexponent : 1074 = unitExponent := rfl
  have hplace : (-1074 : ℤ) = -(unitExponent : Nat) := rfl
  rw [exactDecimal, Decimal.value_stripZeros, hone, ← hexpansion, hplace, hexponent]

/-- The digits are those of a decimal that was tried, or those of the exact expansion. -/
theorem shortest_cases (n : Nat) :
    (∃ d : Decimal, d.ordinal = n ∧ shortest n = d.stripZeros 17) ∨
      shortest n = exactDecimal (unitsOfOrdinal n) := by
  -- the search is opened as a function: at an argument, comparing it with its body would run it
  obtain ⟨search, hsearch⟩ : ∃ search, search = shortest := ⟨shortest, rfl⟩
  rw [← hsearch]
  delta shortest at hsearch
  subst hsearch
  beta_reduce
  extract_lets units top
  split
  · rename_i d hfound
    obtain ⟨place, -, hgrid⟩ := List.exists_of_findSome?_eq_some hfound
    exact .inl ⟨d, ordinal_of_onGrid? hgrid, rfl⟩
  · exact .inr rfl

/-- The digits of a double round to it. -/
theorem roundsTo_shortest (negative : Bool) {n : Nat} (h : n < infinityOrdinal) :
    RoundsTo (signed negative (shortest n).value) (ofOrdinal negative n) := by
  rcases shortest_cases n with ⟨d, hordinal, hdigits⟩ | hdigits
  · have hround := roundsTo_quotient negative d
    rwa [nearest_quotient, hordinal, ← Decimal.value_stripZeros 17, ← hdigits] at hround
  · have hvalue := value_ofOrdinal negative (h.trans infinityOrdinal_lt_signWeight)
    rw [hdigits, value_exactDecimal, ← ordinalValue, ← hvalue]
    exact roundsTo_value (isFinite_ofOrdinal negative h)

/-! ## Layout -/

/-- A decimal as it is laid out in a given style. -/
def layOut (style : Style) (d : Decimal) : List Char :=
  let digits := Numeral.numeral d.coefficient
  let leading : Int := digits.length + d.exponent - 1
  if style.positional leading then positionalText style.pointZero digits (leading + 1)
  else exponentText digits leading

theorem magnitudeText_of_ne_zero (style : Style) {n : Nat} (h : n ≠ 0) :
    magnitudeText style n = layOut style (shortest n) := by
  unfold magnitudeText
  rw [if_neg h]
  rfl

/-- The plain layout has no exponent, however large or small the number is. -/
theorem layOut_plain (d : Decimal) :
    layOut .plain d = positionalText false (Numeral.numeral d.coefficient)
      ((Numeral.numeral d.coefficient).length + d.exponent) := by
  unfold layOut
  extract_lets digits leading
  have hplain : Style.plain.positional leading = true := rfl
  have hleading : leading + 1 = digits.length + d.exponent := Int.sub_add_cancel _ _
  rw [if_pos hplain, hleading]
  rfl

/-- Digits with a point are a mantissa, whose value is that of the digits at their place. -/
theorem mantissa_positionalText {digits : List Char} (h : Literal.Digits digits) (point : ℤ) :
    ∃ whole fraction, Literal.Mantissa (positionalText false digits point) whole fraction ∧
      Decimal.value ⟨Numeral.value (whole ++ fraction), -fraction.length⟩ =
        Decimal.value ⟨Numeral.value digits, point - digits.length⟩ := by
  unfold positionalText
  split
  · -- the point stands before all digits, with zeros between
    rename_i hpoint
    have hlength : ((List.replicate (-point).toNat '0' ++ digits).length : ℤ) =
        digits.length - point := by
      rw [List.length_append, List.length_replicate]
      omega
    have hfraction : ∀ c ∈ List.replicate (-point).toNat '0' ++ digits, c.isDigit = true :=
      List.forall_mem_append.2 ⟨Numeral.isDigit_zeros _, h.all⟩
    refine ⟨['0'], _, .point Literal.digits_zero hfraction, ?_⟩
    have hzeros := Numeral.value_replicate_zero_append (1 + (-point).toNat) digits
    rw [List.replicate_add, List.append_assoc] at hzeros
    rw [hlength, neg_sub, ← hzeros]
    rfl
  · split
    · -- the point stands behind all digits, and zeros take it there
      rename_i hpoint hlength
      have hfill : ((point.toNat - digits.length : Nat) : ℤ) = point - digits.length := by omega
      generalize point.toNat - digits.length = zeros at hfill
      refine ⟨digits ++ List.replicate zeros '0', [], ?_, ?_⟩
      · rw [if_neg Bool.false_ne_true, List.append_nil]
        exact .integral (h.append (Numeral.isDigit_zeros zeros))
      · rw [List.append_nil, Numeral.value_append_replicate_zero, Decimal.value, Decimal.value,
          ← hfill, zpow_natCast, List.length_nil, Nat.cast_zero, neg_zero, zpow_zero, mul_one]
        push_cast
        rfl
    · -- the point stands among the digits
      rename_i hpoint hlength
      have hwhole : digits.take point.toNat ≠ [] := by
        rw [ne_eq, List.take_eq_nil_iff]
        exact not_or.2 ⟨by omega, h.ne_nil⟩
      refine ⟨digits.take point.toNat, digits.drop point.toNat, .point ⟨hwhole, ?_⟩ ?_, ?_⟩
      · exact fun c hc => h.all c (List.mem_of_mem_take hc)
      · exact fun c hc => h.all c (List.mem_of_mem_drop hc)
      · have hrest : ((digits.drop point.toNat).length : ℤ) = digits.length - point := by
          rw [List.length_drop]
          omega
        rw [List.take_append_drop, hrest, neg_sub]

/-- In plain style a decimal is laid out as a mantissa of its value. -/
theorem mantissa_layOut (d : Decimal) :
    ∃ whole fraction, Literal.Mantissa (layOut .plain d) whole fraction ∧
      Decimal.value ⟨Numeral.value (whole ++ fraction), -fraction.length⟩ = d.value := by
  obtain ⟨whole, fraction, hmantissa, hvalue⟩ := mantissa_positionalText
    (Numeral.digits_numeral d.coefficient) ((Numeral.numeral d.coefficient).length + d.exponent)
  rw [Numeral.value_numeral, add_sub_cancel_left] at hvalue
  rw [layOut_plain]
  exact ⟨whole, fraction, hmantissa, hvalue⟩

/-- The plain text of a magnitude is a mantissa that rounds to the magnitude. -/
theorem mantissa_magnitudeText {n : Nat} (h : n < infinityOrdinal) :
    ∃ whole fraction, Literal.Mantissa (magnitudeText .plain n) whole fraction ∧
      ∀ negative, RoundsTo
        (signed negative (Decimal.value ⟨Numeral.value (whole ++ fraction), -fraction.length⟩))
        (ofOrdinal negative n) := by
  by_cases hzero : n = 0
  · have htext : magnitudeText .plain n = ['0'] := by
      rw [magnitudeText, if_pos hzero]
      rfl
    have hvalue : Decimal.value ⟨Numeral.value ['0'], 0⟩ = 0 := zero_mul _
    rw [htext]
    refine ⟨['0'], [], .integral Literal.digits_zero, fun negative => ?_⟩
    have hround := roundsTo_value (isFinite_zero negative)
    rw [value_zero] at hround
    rw [hzero, List.append_nil, List.length_nil, Nat.cast_zero, neg_zero, hvalue, signed, neg_zero,
      ite_self]
    exact hround
  · obtain ⟨whole, fraction, hmantissa, hvalue⟩ := mantissa_layOut (shortest n)
    rw [magnitudeText_of_ne_zero .plain hzero]
    refine ⟨whole, fraction, hmantissa, fun negative => ?_⟩
    rw [hvalue]
    exact roundsTo_shortest negative h

/-- The plain text of a finite double is a literal that rounds to the double. -/
theorem exists_written_text {x : Binary64} (hx : x.isFinite = true) :
    ∃ l : Literal, l.Written (x.text .plain) ∧ RoundsTo l.value x := by
  have hordinal := ordinal_lt_of_isFinite hx
  have hinfinite : x.isInfinite = false := decide_eq_false hordinal.ne
  obtain ⟨whole, fraction, hmantissa, hround⟩ := mantissa_magnitudeText hordinal
  have hrounded := hround x.negative
  rw [← x.eq_ofOrdinal] at hrounded
  refine ⟨⟨x.negative, whole, fraction, 0⟩, ?_, by rwa [Literal.value, zero_sub]⟩
  rw [text, isNaN_of_isFinite hx, hinfinite, if_neg Bool.false_ne_true, if_neg Bool.false_ne_true,
    withSign]
  split
  · rename_i hnegative
    exact ⟨['-'], _, [], by simp, hnegative ▸ .minus, hmantissa, .none⟩
  · rename_i hnegative
    have hpositive : x.negative = false := by simpa using hnegative
    exact ⟨[], _, [], by simp, hpositive ▸ .none, hmantissa, .none⟩

end Binary64

end ScriptRealm
