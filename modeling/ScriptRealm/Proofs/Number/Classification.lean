import ScriptRealm.Proofs.Number.Rounding

/-!
# Classes of doubles

Which form a double has as a script number. NaNs and infinities have forms of their own, and a
double whose exact value is an integer of 64 bits is that integer, but for the least one: `-2 ^ 63`
stays a double. All other doubles are kept as they are.
-/

namespace ScriptRealm

namespace Number

/-- The least integer is the only one with a magnitude of `2 ^ 63`. -/
theorem natAbs_lt_signWeight_iff (i : Int64) :
    i.toInt.natAbs < Binary64.signWeight ↔ i ≠ Int64.minValue := by
  have hweight : Binary64.signWeight = 2 ^ 63 := by decide
  have hmin : Int64.minValue.toInt = -2 ^ 63 := by decide
  have hlow := i.le_toInt
  have hhigh := i.toInt_lt
  rw [ne_eq, ← Int64.toInt_inj, hmin, hweight]
  omega

theorem ofBinary64_eq_integer_iff (x : Binary64) (i : Int64) :
    ofBinary64 x = .integer i ↔
      (x.isFinite = true ∧ x.value = i.toInt) ∧ i ≠ Int64.minValue := by
  have hform := normalForm_ofBinary64 x
  generalize ofBinary64 x = n at hform ⊢
  rw [Binary64.value_eq_intCast_iff]
  cases hform with
  | nan h => simp [Binary64.isFinite_of_isNaN h]
  | positiveInfinity h => simp [h, Binary64.isFinite_infinity]
  | negativeInfinity h => simp [h, Binary64.isFinite_infinity]
  | @integer j hfinite hlt h =>
    have hone : (Binary64.unitsPerOne : ℤ) ≠ 0 := by decide
    rw [h, Int.mul_eq_mul_right_iff hone, Int64.toInt_inj, Number.integer.injEq]
    constructor
    · rintro rfl
      exact ⟨⟨hfinite, rfl⟩, (natAbs_lt_signWeight_iff j).1 hlt⟩
    · exact fun h => h.1.2
  | float hfinite h =>
    simp only [reduceCtorEq, false_iff]
    rintro ⟨⟨-, hunits⟩, hne⟩
    exact absurd ((natAbs_lt_signWeight_iff i).2 hne) (Nat.not_lt.2 (h _ hunits))

theorem ofBinary64_eq_positiveInfinity_iff (x : Binary64) :
    ofBinary64 x = .positiveInfinity ↔ x = Binary64.infinity false := by
  constructor
  · intro h
    have hform := normalForm_ofBinary64 x
    rw [h] at hform
    cases hform with
    | positiveInfinity hword => exact hword
  · rintro rfl
    rfl

theorem ofBinary64_eq_negativeInfinity_iff (x : Binary64) :
    ofBinary64 x = .negativeInfinity ↔ x = Binary64.infinity true := by
  constructor
  · intro h
    have hform := normalForm_ofBinary64 x
    rw [h] at hform
    cases hform with
    | negativeInfinity hword => exact hword
  · rintro rfl
    rfl

/-- What stays a double is finite, and no integer of 64 bits but for the least one. -/
theorem ofBinary64_eq_float_iff (x y : Binary64) :
    ofBinary64 x = .float y ↔
      y = x ∧ x.isFinite = true ∧ ∀ i : Int64, x.value = i.toInt → i = Int64.minValue := by
  have hform := normalForm_ofBinary64 x
  constructor
  · intro h
    rw [h] at hform
    cases hform with
    | float hfinite hlarge =>
      refine ⟨rfl, hfinite, fun i hi => ?_⟩
      -- an integral double other than the least integer would have been small enough
      by_contra hne
      have hsmall := (natAbs_lt_signWeight_iff i).2 hne
      exact absurd hsmall (Nat.not_lt.2 (hlarge _ (Binary64.value_eq_intCast_iff.1 hi)))
  · -- every other form contradicts one of the conditions
    rintro ⟨rfl, hfinite, hfraction⟩
    cases hnumber : ofBinary64 y with
    | integer i =>
      obtain ⟨⟨-, hvalue⟩, hne⟩ := (ofBinary64_eq_integer_iff y i).1 hnumber
      exact absurd (hfraction i hvalue) hne
    | nan =>
      have hnan := (ofBinary64_eq_nan_iff y).1 hnumber
      rw [Binary64.isFinite_of_isNaN hnan] at hfinite
      cases hfinite
    | positiveInfinity =>
      rw [(ofBinary64_eq_positiveInfinity_iff y).1 hnumber] at hfinite
      cases hfinite
    | negativeInfinity =>
      rw [(ofBinary64_eq_negativeInfinity_iff y).1 hnumber] at hfinite
      cases hfinite
    | float z =>
      rw [hnumber] at hform
      cases hform
      rfl

/-! ## Exact classes -/

/-- A number has the form that a double calls for: NaNs and infinities their own, an integer of 64
bits that of an integer, and all else that of the double as it is. -/
structure Classifies (x : Binary64) (n : Number) : Prop where
  integer : ∀ i : Int64, n = .integer i ↔ x.isFinite = true ∧ x.value = i.toInt
  nan : n = .nan ↔ x.isNaN = true
  positiveInfinity : n = .positiveInfinity ↔ x = Binary64.infinity false
  negativeInfinity : n = .negativeInfinity ↔ x = Binary64.infinity true
  float : x.isFinite = true → (∀ i : Int64, x.value ≠ i.toInt) → n = .float x

end Number

/-- The normal form of a double is the form that the double calls for, exactly if the double is not
the least integer of 64 bits. That one is left as it is. -/
theorem normal_form_classifies_iff (x : Binary64) :
    let least : Prop := x.isFinite = true ∧ x.value = Int64.minValue.toInt
    (Number.Classifies x (.ofBinary64 x) ↔ ¬least) ∧ (least → Number.ofBinary64 x = .float x) := by
  intro least
  constructor
  · constructor
    · intro hclasses hleast
      have hinteger := (hclasses.integer Int64.minValue).2 hleast
      exact ((Number.ofBinary64_eq_integer_iff x _).1 hinteger).2 rfl
    · intro hleast
      refine ⟨fun i => ?_, Number.ofBinary64_eq_nan_iff x,
        Number.ofBinary64_eq_positiveInfinity_iff x, Number.ofBinary64_eq_negativeInfinity_iff x,
        fun hfinite hfraction => ?_⟩
      · rw [Number.ofBinary64_eq_integer_iff]
        refine and_iff_left_of_imp fun hvalue hmin => hleast ?_
        rwa [hmin] at hvalue
      · exact (Number.ofBinary64_eq_float_iff x x).2
          ⟨rfl, hfinite, fun i hi => absurd hi (hfraction i)⟩
  · rintro ⟨hfinite, hvalue⟩
    refine (Number.ofBinary64_eq_float_iff x x).2 ⟨rfl, hfinite, fun i hi => ?_⟩
    rw [hvalue] at hi
    have hsame : Int64.minValue.toInt = i.toInt := by exact_mod_cast hi
    exact (Int64.toInt_inj.1 hsame).symm

/-- The double of `-2 ^ 63` is an integer of 64 bits, and does not become one. -/
theorem least_integer_stays_double :
    let x : Binary64 := ⟨0xC3E0000000000000⟩
    x.isFinite = true ∧ x.value = Int64.minValue.toInt ∧ Number.ofBinary64 x = .float x ∧
      ¬Number.Classifies x (.ofBinary64 x) := by
  intro x
  have hfinite : x.isFinite = true := by decide
  have hvalue : x.value = Int64.minValue.toInt :=
    Binary64.value_eq_intCast_iff.2 (by decide +kernel)
  have hfloat : Number.ofBinary64 x = .float x := by decide +kernel
  refine ⟨hfinite, hvalue, hfloat, fun hclasses => ?_⟩
  have hinteger := (hclasses.integer Int64.minValue).2 ⟨hfinite, hvalue⟩
  rw [hfloat] at hinteger
  cases hinteger

end ScriptRealm
