import ScriptRealm.Builtin.Scalar
import ScriptRealm.Converter
import ScriptRealm.Proofs.Number.NormalForm
import ScriptRealm.Proofs.Run

/-!
# What doubles mean

A number may hold a double as it is or in its normal form. Positions and the test for integers do
not tell the two apart. Truth and the conversions to host forms do so for a NaN, the conversion to
an integer for every double that has an integer for its normal form, and equality where a third
number and the normal form are different integers of one double.
-/

namespace ScriptRealm

/-- Two conversions come to the same: equal values, or both of them fail. The machine stays as it
is. -/
inductive Ending.SameForm : Ending Value → Ending Value → Prop where
  | returned {v w : Value} (m : Machine) (h : v.eq w = true) :
      SameForm (.returned v m) (.returned w m)
  | threw (e e' : ScriptError) (m : Machine) : SameForm (.threw e m) (.threw e' m)

/-- Two values have the same host form of a type, or neither has one. -/
def Converter.Agrees (c : Converter) (target : HostType) (v w : Value) : Prop :=
  ∀ (answer : (q : Query) → Machine → Ending q.Answer) (m : Machine),
    ((c.toHost v (some target)).run answer m).SameForm ((c.toHost w (some target)).run answer m)

namespace Converter

/-- Conversions that ask no query agree under answers that are never given. -/
theorem Agrees.of_standard {target : HostType} {v w : Value} (h : standard.Agrees target v w)
    (m : Machine) :
    ((convert v target).run (fun _ m => .exhausted m) m).SameForm
      ((convert w target).run (fun _ m => .exhausted m) m) :=
  h (fun _ m => .exhausted m) m

theorem agrees_boolean_iff (v w : Value) :
    standard.Agrees .boolean v w ↔ v.truth = w.truth := by
  constructor
  · intro h
    cases h.of_standard default with
    | returned m h => exact eq_of_beq h
  · intro h answer m
    exact .returned m (beq_of_eq h)

/-- No double has an integer for its host form, be it integral or not. -/
theorem agrees_integer_iff (x : Binary64) (n : Number) :
    standard.Agrees .integer (.number (.float x)) (.number n) ↔ ∀ i, n ≠ .integer i := by
  constructor
  · rintro h i rfl
    cases h.of_standard default
  · intro h answer m
    cases n with
    | integer i => exact absurd rfl (h i)
    | _ => exact .threw _ _ m

/-- Every double is its own host form as a float, NaNs among them. -/
theorem agrees_float_iff (x : Binary64) (n : Number) :
    standard.Agrees .float (.number (.float x)) (.number n) ↔
      n ≠ .nan ∧ (Number.float x).eq n = true := by
  constructor
  · intro h
    have hforms := h.of_standard default
    cases n with
    | nan => cases hforms
    | _ => cases hforms with | returned m h => exact ⟨by simp, h⟩
  · rintro ⟨hnan, heq⟩ answer m
    cases n with
    | nan => exact absurd rfl hnan
    | _ => exact .returned m heq

end Converter

/-- A double and its normal form have the same position, and are both integers or both none. They
are both true or both false, and have the same host form as a truth value and as a float, exactly if
the double is no NaN; they have the same host form as an integer, none, exactly if the normal form
is no integer; and they are equal to the same third numbers but for other integers that round to the
double. -/
theorem float_means_normal_form_iff (x : Binary64) :
    let raw : Value := .number (.float x)
    let normal : Value := .number (.ofBinary64 x)
    raw.index? = normal.index? ∧
    (∀ rest, Builtin.Scalar.isInteger (raw :: rest) = Builtin.Scalar.isInteger (normal :: rest)) ∧
    (raw.truth = normal.truth ↔ x.isNaN = false) ∧
    (∀ n : Number,
      (raw.eq (.number n) = normal.eq (.number n) ↔
        (x.eq n.toBinary64 = true → (Number.ofBinary64 x).IntegersAgree n)) ∧
      (Value.eq (.number n) raw = Value.eq (.number n) normal ↔
        (x.eq n.toBinary64 = true → (Number.ofBinary64 x).IntegersAgree n))) ∧
    (Converter.standard.Agrees .boolean raw normal ↔ x.isNaN = false) ∧
    (Converter.standard.Agrees .integer raw normal ↔ ∀ i, Number.ofBinary64 x ≠ .integer i) ∧
    (Converter.standard.Agrees .float raw normal ↔ x.isNaN = false) := by
  intro raw normal
  have htruth : raw.truth = normal.truth ↔ x.isNaN = false := Number.truth_ofBinary64_iff x
  have heq := Number.eq_ofBinary64_iff x
  refine ⟨(Number.index?_ofBinary64 x).symm, fun rest => ?_, htruth, fun n => ⟨heq n, ?_⟩,
    ?_, Converter.agrees_integer_iff x _, ?_⟩
  · have hinteger := Number.isInteger_ofBinary64 x
    simp only [Builtin.Scalar.isInteger, Value.argument, List.getElem?_cons_zero, Option.getD_some,
      raw, normal, hinteger]
  · rw [← heq n, Number.eq_comm (.float x), Number.eq_comm (.ofBinary64 x)]
    exact Iff.rfl
  · rw [Converter.agrees_boolean_iff, htruth]
  · rw [Converter.agrees_float_iff, Number.float_eq_ofBinary64_iff, ne_eq,
      Number.ofBinary64_eq_nan_iff]
    simp

/-- The double 2 has no host form as an integer, as its normal form has; a NaN is true as a double
and false in its normal form; and the double `2 ^ 53` equals the integer after its normal form. -/
theorem float_differs_from_normal_form :
    let two : Binary64 := ⟨0x4000000000000000⟩
    let top : Binary64 := ⟨0x4340000000000000⟩
    let next : Number := .integer 9007199254740993
    ¬Converter.standard.Agrees .integer (.number (.float two)) (.number (.ofBinary64 two)) ∧
    (Number.float .nan).truth ≠ (Number.ofBinary64 .nan).truth ∧
    ¬Converter.standard.Agrees .boolean (.number (.float .nan)) (.number (.ofBinary64 .nan)) ∧
    ¬Converter.standard.Agrees .float (.number (.float .nan)) (.number (.ofBinary64 .nan)) ∧
    (Number.float top).eq next ≠ (Number.ofBinary64 top).eq next := by
  intro two top next
  have htwo : Number.ofBinary64 two = .integer 2 := by decide +kernel
  have hnan : Number.ofBinary64 .nan = .nan := by decide +kernel
  refine ⟨fun h => ?_, ?_, fun h => ?_, fun h => ?_, by decide +kernel⟩
  · exact (Converter.agrees_integer_iff two _).mp h 2 htwo
  · rw [hnan]; decide
  · have := (Converter.agrees_boolean_iff _ _).mp h
    rw [hnan] at this
    exact absurd this (by decide)
  · exact ((Converter.agrees_float_iff .nan _).mp h).1 hnan

end ScriptRealm
