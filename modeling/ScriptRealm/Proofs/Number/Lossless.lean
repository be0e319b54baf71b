import Mathlib.Order.WithBot
import ScriptRealm.Proofs.Number.Classification

/-!
# What normal forms lose

A double and its normal form denote the same number, be it a rational one or an infinity. So a
normal form can be taken back to a double, and doubles have one normal form just if they denote one
number: lost are only the sign of a zero, and which of the NaNs a NaN was.
-/

namespace ScriptRealm

namespace Binary64

/-! ## Values with infinities -/

/-- The exact value of a double among the rational numbers and two infinities. A NaN has none. -/
def extendedValue? (x : Binary64) : Option (WithBot (WithTop ℚ)) :=
  if x.isNaN then none
  else if x.isInfinite then some (if x.negative then ⊥ else ⊤)
  else some ((x.value : WithTop ℚ) : WithBot (WithTop ℚ))

theorem extendedValue?_eq_none_iff (x : Binary64) : x.extendedValue? = none ↔ x.isNaN = true := by
  unfold extendedValue?
  split
  · simp [*]
  · split <;> simp [*]

theorem extendedValue?_infinity (negative : Bool) :
    (infinity negative).extendedValue? = some (if negative then ⊥ else ⊤) := by
  cases negative <;> rfl

theorem extendedValue?_of_isFinite {x : Binary64} (h : x.isFinite = true) :
    x.extendedValue? = some ((x.value : WithTop ℚ) : WithBot (WithTop ℚ)) := by
  rw [extendedValue?, isNaN_of_isFinite h, isInfinite_of_isFinite h, if_neg Bool.false_ne_true,
    if_neg Bool.false_ne_true]

/-- The value of a double is a rational number just if the double is finite. -/
theorem extendedValue?_eq_coe_iff (x : Binary64) (q : ℚ) :
    x.extendedValue? = some ((q : WithTop ℚ) : WithBot (WithTop ℚ)) ↔
      x.isFinite = true ∧ x.value = q := by
  rcases x.kind_cases with hnan | ⟨negative, rfl⟩ | hfinite
  · simp [(extendedValue?_eq_none_iff x).2 hnan, isFinite_of_isNaN hnan]
  · rw [extendedValue?_infinity, isFinite_infinity]
    cases negative <;> simp
  · simp [extendedValue?_of_isFinite hfinite, hfinite]

/-- Infinities are known by their values. -/
theorem extendedValue?_eq_infinity_iff (x : Binary64) (negative : Bool) :
    x.extendedValue? = (infinity negative).extendedValue? ↔ x = infinity negative := by
  refine ⟨fun h => ?_, fun h => congrArg extendedValue? h⟩
  rcases x.kind_cases with hnan | ⟨sign, rfl⟩ | hfinite
  · rw [(extendedValue?_eq_none_iff x).2 hnan, extendedValue?_infinity] at h
    cases h
  · rw [extendedValue?_infinity, extendedValue?_infinity] at h
    cases sign <;> cases negative <;> simp at h ⊢
  · rw [extendedValue?_of_isFinite hfinite] at h
    have hinfinity := ((extendedValue?_eq_coe_iff _ _).1 h.symm).1
    rw [isFinite_infinity] at hinfinity
    cases hinfinity

/-- Only the zeros have the value zero. -/
theorem eq_zero_of_value_eq_zero {x : Binary64} (h : x.value = 0) : x = zero x.negative := by
  have hordinal : x.ordinal = 0 := by
    apply strictMono_ordinalValue.injective
    rw [← abs_value, h, abs_zero, ordinalValue_zero]
  have hword := x.eq_ofOrdinal
  rwa [hordinal] at hword

/-- Doubles compare as equal just if they have values, and these are equal. -/
theorem eq_iff_extendedValue? (x y : Binary64) :
    x.eq y = true ↔ x.isNaN = false ∧ x.extendedValue? = y.extendedValue? := by
  have hunits : x.eq y = true ↔ x.isNaN = false ∧ y.isNaN = false ∧ x.value = y.value := by
    simp [eq, value, unitsPerOne_pos.ne', and_assoc]
  rw [hunits]
  constructor
  · rintro ⟨hx, hy, hvalue⟩
    refine ⟨hx, ?_⟩
    -- a value belongs to one word only, infinities included, but for the two zeros
    by_cases hzero : x.value = 0
    · rw [eq_zero_of_value_eq_zero hzero, eq_zero_of_value_eq_zero (hvalue.symm.trans hzero),
        extendedValue?_of_isFinite (isFinite_zero _), extendedValue?_of_isFinite (isFinite_zero _),
        value_zero, value_zero]
    · rw [eq_of_value_eq hvalue hzero]
  · rintro ⟨hx, hvalue⟩
    have hy : y.isNaN = false := by
      rw [← Bool.not_eq_true, ← extendedValue?_eq_none_iff, ← hvalue, extendedValue?_eq_none_iff,
        Bool.not_eq_true]
      exact hx
    refine ⟨hx, hy, ?_⟩
    rcases y.kind_cases with hnan | ⟨negative, rfl⟩ | hfinite
    · rw [hnan] at hy
      cases hy
    · rw [(extendedValue?_eq_infinity_iff x negative).1 hvalue]
    · rw [extendedValue?_of_isFinite hfinite] at hvalue
      exact ((extendedValue?_eq_coe_iff _ _).1 hvalue).2

end Binary64

namespace Number

/-! ## There and back -/

/-- The value of a double goes through its normal form. -/
theorem extendedValue?_ofBinary64 (x : Binary64) :
    (ofBinary64 x).toBinary64.extendedValue? = x.extendedValue? := by
  have hform := normalForm_ofBinary64 x
  generalize ofBinary64 x = n at hform ⊢
  cases hform with
  | nan h =>
    rw [(Binary64.extendedValue?_eq_none_iff x).2 h, Binary64.extendedValue?_eq_none_iff]
    exact Binary64.isNaN_nan
  | positiveInfinity h => rw [h, toBinary64]
  | negativeInfinity h => rw [h, toBinary64]
  | @integer i hfinite hlt h =>
    have hlow := i.le_toInt
    have hhigh := i.toInt_lt
    have hround : (Binary64.ofInt i.toInt).isFinite = true := Binary64.isFinite_ofInt (by omega)
    rw [toBinary64, Binary64.extendedValue?_of_isFinite hround,
      Binary64.extendedValue?_of_isFinite hfinite, Binary64.value, Binary64.value,
      Binary64.units_ofInt_of_units hfinite h]
  | float => rfl

/-- Both zeros become the integer. -/
theorem ofBinary64_of_value_eq_zero {x : Binary64} (hfinite : x.isFinite = true)
    (h : x.value = 0) : ofBinary64 x = .integer 0 := by
  rw [ofBinary64_eq_integer_iff]
  exact ⟨⟨hfinite, by rw [h]; rfl⟩, by decide⟩

/-- Doubles have one normal form just if they denote one number, or none. -/
theorem ofBinary64_eq_iff (x y : Binary64) :
    ofBinary64 x = ofBinary64 y ↔ x.extendedValue? = y.extendedValue? := by
  constructor
  · intro h
    rw [← extendedValue?_ofBinary64 x, h, extendedValue?_ofBinary64]
  · intro h
    rcases y.kind_cases with hnan | ⟨negative, rfl⟩ | hfinite
    · rw [(Binary64.extendedValue?_eq_none_iff y).2 hnan,
        Binary64.extendedValue?_eq_none_iff] at h
      rw [(ofBinary64_eq_nan_iff x).2 h, (ofBinary64_eq_nan_iff y).2 hnan]
    · rw [(Binary64.extendedValue?_eq_infinity_iff x negative).1 h]
    · rw [Binary64.extendedValue?_of_isFinite hfinite, Binary64.extendedValue?_eq_coe_iff] at h
      obtain ⟨hxfinite, hvalue⟩ := h
      by_cases hzero : x.value = 0
      · rw [ofBinary64_of_value_eq_zero hxfinite hzero,
          ofBinary64_of_value_eq_zero hfinite (hvalue.symm.trans hzero)]
      · rw [Binary64.eq_of_value_eq hvalue hzero]

/-- What goes through its normal form unchanged. -/
theorem toBinary64_ofBinary64_eq_self_iff (x : Binary64) :
    (ofBinary64 x).toBinary64 = x ↔
      x ≠ Binary64.zero true ∧ (x.isNaN = false ∨ x = Binary64.nan) := by
  have hvalue := extendedValue?_ofBinary64 x
  rcases x.kind_cases with hnan | ⟨negative, rfl⟩ | hfinite
  · have hzero : x ≠ Binary64.zero true := by
      rintro rfl
      exact absurd hnan (by decide)
    rw [(ofBinary64_eq_nan_iff x).2 hnan, toBinary64]
    constructor
    · intro h
      exact ⟨hzero, .inr h.symm⟩
    · rintro ⟨-, hnumber | h⟩
      · rw [hnan] at hnumber
        cases hnumber
      · exact h.symm
  · cases negative <;> decide
  · by_cases hzero : x.value = 0
    · rw [ofBinary64_of_value_eq_zero hfinite hzero, Binary64.eq_zero_of_value_eq_zero hzero]
      cases x.negative <;> decide +kernel
    · rw [Binary64.extendedValue?_of_isFinite hfinite, Binary64.extendedValue?_eq_coe_iff] at hvalue
      have hsame := Binary64.eq_of_value_eq hvalue.2.symm hzero
      have hnonzero : x ≠ Binary64.zero true := by
        rintro rfl
        exact hzero (Binary64.value_zero true)
      exact iff_of_true hsame.symm ⟨hnonzero, .inl (Binary64.isNaN_of_isFinite hfinite)⟩

end Number

/-- A double and its normal form have the same value, where a NaN has none; doubles have one normal
form just if their values are equal; and a normal form that is taken back to a double has itself for
its normal form. The double itself comes back, unless it is the negative zero or some other NaN than
that of arithmetic. -/
theorem normal_form_keeps_value (x y : Binary64) :
    (Number.ofBinary64 x).toBinary64.extendedValue? = x.extendedValue? ∧
    (x.extendedValue? = none ↔ x.isNaN = true) ∧
    (Number.ofBinary64 x = Number.ofBinary64 y ↔ x.extendedValue? = y.extendedValue?) ∧
    (x.eq y = true ↔ x.isNaN = false ∧ x.extendedValue? = y.extendedValue?) ∧
    Number.ofBinary64 (Number.ofBinary64 x).toBinary64 = Number.ofBinary64 x ∧
    ((Number.ofBinary64 x).toBinary64 = x ↔
      x ≠ Binary64.zero true ∧ (x.isNaN = false ∨ x = Binary64.nan)) := by
  have hvalue := Number.extendedValue?_ofBinary64 x
  exact ⟨hvalue, x.extendedValue?_eq_none_iff, Number.ofBinary64_eq_iff x y,
    x.eq_iff_extendedValue? y, (Number.ofBinary64_eq_iff _ x).2 hvalue,
    Number.toBinary64_ofBinary64_eq_self_iff x⟩

end ScriptRealm
