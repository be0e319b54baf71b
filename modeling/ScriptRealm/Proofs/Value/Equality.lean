import ScriptRealm.Proofs.Number.Exact
import ScriptRealm.Value

/-!
# Equality of values

Equality compares two integers exactly, and an integer with any other number as doubles. Equality of
doubles is a partial equivalence, so a chain of two equalities can only break where integers stand
at both of its ends. It breaks exactly where these differ, and integers that doubles hold exactly do
not.
-/

namespace ScriptRealm

namespace Binary64

theorem eq_comm (x y : Binary64) : x.eq y = y.eq x := by
  unfold Binary64.eq
  rw [Bool.and_comm (!x.isNaN), BEq.comm (a := x.units)]

/-- Doubles compare transitively. What is no number equals nothing, and so is in no chain. -/
theorem eq_trans {x y z : Binary64} (hxy : x.eq y = true) (hyz : y.eq z = true) :
    x.eq z = true := by
  simp only [Binary64.eq, Bool.and_eq_true, beq_iff_eq] at hxy hyz ⊢
  exact ⟨⟨hxy.1.1, hyz.1.2⟩, hxy.2.trans hyz.2⟩

theorem eq_self_iff (x : Binary64) : x.eq x = true ↔ x.isNaN = false := by
  simp [Binary64.eq]

theorem isNaN_nan : nan.isNaN = true := by decide

@[simp] theorem nan_eq (x : Binary64) : nan.eq x = false := by
  simp [Binary64.eq, isNaN_nan]

@[simp] theorem eq_nan (x : Binary64) : x.eq nan = false := by
  rw [eq_comm, nan_eq]

end Binary64

/-! ## Numbers -/

namespace Number

/-- Two numbers are not two different integers. -/
def IntegersAgree (a b : Number) : Prop :=
  ∀ i j, a = .integer i → b = .integer j → i = j

/-- A NaN, in either form. -/
def isNaN : Number → Bool
  | .float x => x.isNaN
  | .nan => true
  | _ => false

/-- Not an integer beyond `2 ^ 53`, which doubles may fail to hold. -/
def Safe (n : Number) : Prop :=
  ∀ i, n = .integer i → i.toInt.natAbs ≤ 2 * Binary64.fractionCount

theorem isNaN_toBinary64 (n : Number) : n.toBinary64.isNaN = n.isNaN := by
  cases n with
  | integer i => exact Binary64.isNaN_ofInt i.toInt
  | float x => rfl
  | nan => exact Binary64.isNaN_nan
  | _ => decide

/-- A number agrees with itself. -/
theorem IntegersAgree.refl (n : Number) : n.IntegersAgree n := by
  intro i j hi hj
  rw [hi] at hj
  exact Number.integer.inj hj

theorem IntegersAgree.symm {a b : Number} (h : a.IntegersAgree b) : b.IntegersAgree a :=
  fun j i hj hi => (h i j hi hj).symm

/-- All but two integers are compared as doubles. -/
theorem eq_eq_toBinary64 {a b : Number} (h : ∀ i j, a = .integer i → b ≠ .integer j) :
    a.eq b = a.toBinary64.eq b.toBinary64 := by
  have hsame : ∀ s : Bool, (Binary64.infinity s).eq (Binary64.infinity s) = true := by decide
  cases a with
  | integer i =>
    cases b with
    | integer j => exact absurd rfl (h i j rfl)
    | nan => exact (Binary64.eq_nan _).symm
    | _ => rfl
  | float x =>
    cases b with
    | nan => exact (Binary64.eq_nan x).symm
    | _ => rfl
  | nan => exact (Binary64.nan_eq _).symm
  | positiveInfinity =>
    cases b with
    | nan => exact (Binary64.eq_nan _).symm
    | positiveInfinity => exact (hsame false).symm
    | _ => rfl
  | negativeInfinity =>
    cases b with
    | nan => exact (Binary64.eq_nan _).symm
    | negativeInfinity => exact (hsame true).symm
    | _ => rfl

/-- Equality is that of the doubles, except that two integers are compared exactly. -/
theorem eq_iff (a b : Number) :
    a.eq b = true ↔ a.toBinary64.eq b.toBinary64 = true ∧ a.IntegersAgree b := by
  by_cases hintegers : ∃ i j, a = .integer i ∧ b = .integer j
  · -- rounding is a function, so that equal integers are equal as doubles
    obtain ⟨i, j, rfl, rfl⟩ := hintegers
    constructor
    · intro h
      obtain rfl : i = j := eq_of_beq h
      have hnumber : (Number.integer i).toBinary64.isNaN = false := isNaN_toBinary64 (.integer i)
      exact ⟨(Binary64.eq_self_iff _).2 hnumber, .refl _⟩
    · rintro ⟨-, hagree⟩
      exact beq_of_eq (hagree i j rfl rfl)
  · have hmixed : ∀ i j, a = .integer i → b ≠ .integer j :=
      fun i j ha hb => hintegers ⟨i, j, ha, hb⟩
    rw [eq_eq_toBinary64 hmixed]
    exact (and_iff_left fun i j ha hb => absurd hb (hmixed i j ha)).symm

theorem eq_comm (a b : Number) : a.eq b = b.eq a := by
  rw [Bool.eq_iff_iff, eq_iff, eq_iff, Binary64.eq_comm]
  exact and_congr_right fun _ => ⟨IntegersAgree.symm, IntegersAgree.symm⟩

theorem eq_self_iff (n : Number) : n.eq n = true ↔ n.isNaN = false := by
  rw [eq_iff, Binary64.eq_self_iff, isNaN_toBinary64]
  exact and_iff_left (IntegersAgree.refl n)

section Chain

variable {a b c : Number} (hab : a.eq b = true) (hbc : b.eq c = true)
include hab hbc

/-- Rounded to doubles, the outer numbers of two equalities are equal. -/
theorem toBinary64_eq_trans : a.toBinary64.eq c.toBinary64 = true :=
  Binary64.eq_trans ((eq_iff a b).1 hab).1 ((eq_iff b c).1 hbc).1

/-- The outer numbers of two equalities are equal exactly if they agree as integers. -/
theorem eq_trans_iff : a.eq c = true ↔ a.IntegersAgree c := by
  rw [eq_iff]
  exact and_iff_right (toBinary64_eq_trans hab hbc)

/-- Safe integers are told apart by their roundings. -/
theorem integersAgree_of_safe (ha : a.Safe) (hc : c.Safe) : a.IntegersAgree c := by
  have heq := toBinary64_eq_trans hab hbc
  rintro i k rfl rfl
  exact Int64.toInt_inj.1 (Binary64.eq_of_ofInt_eq (ha i rfl) (hc k rfl) heq)

end Chain

end Number

/-! ## Values -/

namespace Value

/-- What holds of a value's own number, or of those of its parts, followed through pairs only. -/
def AllNumbers (p : Number → Prop) : Value → Prop
  | .number n => p n
  | .pair a b => a.AllNumbers p ∧ b.AllNumbers p
  | _ => True

/-- In no place of two values, followed through pairs only, stand two different integers. -/
def IntegersAgree : Value → Value → Prop
  | .number a, .number b => a.IntegersAgree b
  | .pair a b, .pair c d => a.IntegersAgree c ∧ b.IntegersAgree d
  | _, _ => True

/-- The cases of equality. -/
inductive Equals : Value → Value → Prop where
  | undefined : Equals .undefined .undefined
  | null : Equals .null .null
  | boolean {a b : Bool} (h : a = b) : Equals (.boolean a) (.boolean b)
  | char {a b : Char} (h : a = b) : Equals (.char a) (.char b)
  | string {a b : String} (h : a = b) : Equals (.string a) (.string b)
  | number {a b : Number} (h : a.eq b = true) : Equals (.number a) (.number b)
  | list {a b : ListRef} (h : a.index = b.index) : Equals (.list a) (.list b)
  | map {a b : MapRef} (h : a.index = b.index) : Equals (.map a) (.map b)
  | iterable {a b : IterableRef} (h : a.index = b.index) : Equals (.iterable a) (.iterable b)
  | hostClass {a b : String} (h : a = b) : Equals (.hostClass a) (.hostClass b)
  | pair {a b c d : Value} (hfirst : Equals a c) (hsecond : Equals b d) :
      Equals (.pair a b) (.pair c d)
  | object {a b : ObjectRef} (h : a.index = b.index) : Equals (.object a) (.object b)

theorem equals_of_eq {a b : Value} (h : a.eq b = true) : Equals a b := by
  fun_induction Value.eq a b with
  | case1 => exact .undefined
  | case2 => exact .null
  | case3 a b => exact .boolean (eq_of_beq h)
  | case4 a b => exact .char (eq_of_beq h)
  | case5 a b => exact .string (eq_of_beq h)
  | case6 a b => exact .number h
  | case7 a b => exact .list (eq_of_beq h)
  | case8 a b => exact .map (eq_of_beq h)
  | case9 a b => exact .iterable (eq_of_beq h)
  | case10 a b => exact .hostClass (eq_of_beq h)
  | case11 a b c d ihfirst ihsecond =>
    obtain ⟨hfirst, hsecond⟩ := Bool.and_eq_true_iff.1 h
    exact .pair (ihfirst hfirst) (ihsecond hsecond)
  | case12 a b => exact .object (eq_of_beq h)
  | case13 => cases h

/-- Conversely, values that are equal part by part compare as equal. -/
theorem Equals.eq {a b : Value} (h : Equals a b) : a.eq b = true := by
  induction h with
  | number h => exact h
  | pair _ _ ihfirst ihsecond => exact Bool.and_eq_true_iff.2 ⟨ihfirst, ihsecond⟩
  | undefined | null => rfl
  | _ h => exact beq_of_eq h

theorem eq_iff_equals (a b : Value) : a.eq b = true ↔ Equals a b :=
  ⟨equals_of_eq, Equals.eq⟩

theorem Equals.symm {a b : Value} (h : Equals a b) : Equals b a := by
  induction h with
  | number h => exact .number (Number.eq_comm _ _ ▸ h)
  | pair _ _ ihfirst ihsecond => exact .pair ihfirst ihsecond
  | undefined => exact .undefined
  | null => exact .null
  | boolean h => exact .boolean h.symm
  | char h => exact .char h.symm
  | string h => exact .string h.symm
  | list h => exact .list h.symm
  | map h => exact .map h.symm
  | iterable h => exact .iterable h.symm
  | hostClass h => exact .hostClass h.symm
  | object h => exact .object h.symm

/-- Equal values agree in their integers. -/
theorem Equals.integersAgree {a b : Value} (h : Equals a b) : a.IntegersAgree b := by
  induction h with
  | number h => exact ((Number.eq_iff _ _).1 h).2
  | pair _ _ ihfirst ihsecond => exact ⟨ihfirst, ihsecond⟩
  | _ => trivial

/-- A value equals itself unless some number in it is no number. -/
theorem equals_self_iff (a : Value) : Equals a a ↔ a.AllNumbers (·.isNaN = false) := by
  induction a with
  | number n =>
    constructor
    · intro h
      cases h with
      | number h => exact (Number.eq_self_iff n).1 h
    · intro h
      exact .number ((Number.eq_self_iff n).2 h)
  | pair a b iha ihb =>
    constructor
    · intro h
      cases h with
      | pair hfirst hsecond => exact ⟨iha.1 hfirst, ihb.1 hsecond⟩
    · rintro ⟨hfirst, hsecond⟩
      exact .pair (iha.2 hfirst) (ihb.2 hsecond)
  | _ => exact ⟨fun _ => trivial, fun _ => by constructor <;> rfl⟩

section Chain

variable {a b c : Value} (hab : Equals a b) (hbc : Equals b c)
include hab hbc

/-- A chain of two equalities holds at its ends if no two different integers stand there. -/
theorem Equals.trans (h : a.IntegersAgree c) : Equals a c := by
  -- only numbers need the assumption; whatever else is compared is compared as it is
  induction hab generalizing c with
  | number hab =>
    cases hbc with
    | number hbc => exact .number ((Number.eq_trans_iff hab hbc).2 h)
  | pair _ _ ihfirst ihsecond =>
    cases hbc with
    | pair hfirst hsecond => exact .pair (ihfirst hfirst h.1) (ihsecond hsecond h.2)
  | undefined => exact hbc
  | null => exact hbc
  | boolean hab => cases hbc with | boolean hbc => exact .boolean (hab.trans hbc)
  | char hab => cases hbc with | char hbc => exact .char (hab.trans hbc)
  | string hab => cases hbc with | string hbc => exact .string (hab.trans hbc)
  | list hab => cases hbc with | list hbc => exact .list (hab.trans hbc)
  | map hab => cases hbc with | map hbc => exact .map (hab.trans hbc)
  | iterable hab => cases hbc with | iterable hbc => exact .iterable (hab.trans hbc)
  | hostClass hab => cases hbc with | hostClass hbc => exact .hostClass (hab.trans hbc)
  | object hab => cases hbc with | object hbc => exact .object (hab.trans hbc)

/-- Integers that doubles hold exactly agree along a chain of equalities. -/
theorem integersAgree_of_safe (ha : a.AllNumbers Number.Safe) (hc : c.AllNumbers Number.Safe) :
    a.IntegersAgree c := by
  induction hab generalizing c with
  | number hab =>
    cases hbc with
    | number hbc => exact Number.integersAgree_of_safe hab hbc ha hc
  | pair _ _ ihfirst ihsecond =>
    cases hbc with
    | pair hfirst hsecond => exact ⟨ihfirst hfirst ha.1 hc.1, ihsecond hsecond ha.2 hc.2⟩
  | _ =>
    cases hbc
    trivial

end Chain

end Value

/-- Equality of values is symmetric; a value equals itself exactly if it holds no NaN; and a chain
of two equalities holds at its ends exactly if no two different integers stand there in one place,
which is so if the integers there are at most `2 ^ 53` in magnitude. -/
theorem value_equality_laws (a b c : Value) :
    a.eq b = b.eq a ∧ (a.eq a = true ↔ a.AllNumbers (·.isNaN = false)) ∧
      (a.eq b = true → b.eq c = true →
        (a.eq c = true ↔ a.IntegersAgree c) ∧
          (a.AllNumbers Number.Safe → c.AllNumbers Number.Safe → a.eq c = true)) := by
  have hsymm : a.eq b = b.eq a := by
    rw [Bool.eq_iff_iff, Value.eq_iff_equals, Value.eq_iff_equals]
    exact ⟨Value.Equals.symm, Value.Equals.symm⟩
  simp only [Value.eq_iff_equals]
  refine ⟨hsymm, Value.equals_self_iff a, fun hab hbc => ?_⟩
  have hends : Value.Equals a c ↔ a.IntegersAgree c :=
    ⟨Value.Equals.integersAgree, Value.Equals.trans hab hbc⟩
  refine ⟨hends, fun ha hc => ?_⟩
  exact hends.2 (Value.integersAgree_of_safe hab hbc ha hc)

/-- Through a double, in a pair, the integer `2 ^ 53` reaches itself. -/
theorem value_equality_laws_greatest_safe :
    let a : Value := .pair (.number (.integer 9007199254740992)) .null
    let b : Value := .pair (.number (.float ⟨0x4340000000000000⟩)) .null
    a.eq b = true ∧ b.eq a = true ∧ a.AllNumbers Number.Safe ∧ a.eq a = true := by
  intro a b
  have hab : a.eq b = true := by decide +kernel
  have hba : b.eq a = true := by decide +kernel
  have hsafe : a.AllNumbers Number.Safe := by
    refine ⟨fun i hi => ?_, trivial⟩
    rw [← Number.integer.inj hi]
    decide
  exact ⟨hab, hba, hsafe, ((value_equality_laws a b a).2.2 hab hba).2 hsafe hsafe⟩

/-- The double `2 ^ 53` equals the integer `2 ^ 53` and, by rounding, the integer after it. -/
theorem rounded_chain_breaks :
    let a : Value := .number (.integer 9007199254740992)
    let b : Value := .number (.float ⟨0x4340000000000000⟩)
    let c : Value := .number (.integer 9007199254740993)
    a.eq b = true ∧ b.eq c = true ∧ a.eq c = false := by
  decide +kernel

end ScriptRealm
