import Mathlib.Data.Rat.Floor
import ScriptRealm.Proofs.Number.ToFixed

/-!
# Positions of numbers

A key that is a number stands for the position that is the floor of its exact value. Positions are
words of 64 bits, and the test for that rounds the greatest of them up to `2 ^ 64`: the double of
just this value passes, and stands for the greatest position in place of none.
-/

namespace ScriptRealm

namespace Binary64

theorem floor_eq (x : Binary64) : x.floor = ⌊x.value⌋ := by
  rw [value, Rat.floor_intCast_div_natCast]
  rfl

/-- The double of `2 ^ 64`. -/
def wordCount : Binary64 := ⟨0x43F0000000000000⟩

theorem value_wordCount : wordCount.value = (UInt64.size : ℤ) :=
  value_eq_intCast_iff.2 (by decide +kernel)

/-- Doubles have no fraction at this magnitude, so that only one of them has this floor. -/
theorem eq_wordCount_of_floor {x : Binary64} (h : ⌊x.value⌋ = (UInt64.size : ℤ)) :
    x = wordCount := by
  have hle : ((UInt64.size : ℤ) : ℚ) ≤ x.value := h ▸ Int.floor_le x.value
  have hbound : (2 * fractionCount : ℚ) ≤ ((UInt64.size : ℤ) : ℚ) := by
    exact_mod_cast (by decide : 2 * fractionCount ≤ UInt64.size)
  obtain ⟨i, hi⟩ := exists_int_of_le_abs_value (hbound.trans (hle.trans (le_abs_self x.value)))
  rw [hi, Int.floor_intCast] at h
  apply eq_of_value_eq
  · rw [hi, h, value_wordCount]
  · rw [hi, h]
    norm_num [UInt64.size]

end Binary64

/-! ## Floors -/

/-- The floor of the exact value of an integer or a finite double. -/
def Value.floor? : Value → Option ℤ
  | .number n => n.exactValue?.map Int.floor
  | _ => none

/-- The position for a floor. The first one beyond the words of 64 bits stands for the last of them.
-/
def Number.positionAt? (floor : ℤ) : Option Nat :=
  if 0 ≤ floor ∧ floor ≤ UInt64.size then some (min floor.toNat (UInt64.size - 1)) else none

namespace Number

theorem positionAt?_of_lt {floor : ℤ} (h : floor < UInt64.size) :
    positionAt? floor = if 0 ≤ floor then some floor.toNat else none := by
  unfold UInt64.size at h
  unfold positionAt? UInt64.size
  by_cases hpos : 0 ≤ floor
  · rw [if_pos ⟨hpos, by omega⟩, if_pos hpos, Nat.min_eq_left (by omega)]
  · rw [if_neg fun hin => hpos hin.1, if_neg hpos]

theorem positionAt?_size : positionAt? UInt64.size = some (UInt64.size - 1) := by decide

theorem positionAt?_eq_some_iff {floor : ℤ} {i : Nat} (h : floor ≠ UInt64.size) :
    positionAt? floor = some i ↔ floor = i ∧ i < UInt64.size := by
  unfold UInt64.size at h ⊢
  unfold positionAt? UInt64.size
  split
  · rw [Option.some.injEq]
    omega
  · simp only [reduceCtorEq, false_iff]
    omega

end Number

namespace Value

theorem floor?_integer (i : Int64) : (Value.number (.integer i)).floor? = some i.toInt :=
  congrArg some (Int.floor_intCast i.toInt)

theorem floor?_float (x : Binary64) :
    (Value.number (.float x)).floor? = if x.isFinite then some ⌊x.value⌋ else none := by
  rw [floor?, Number.exactValue?]
  split <;> rfl

/-- The position of a value depends on the floor only. -/
theorem index?_eq_bind_floor? (v : Value) : v.index? = v.floor?.bind Number.positionAt? := by
  cases v with
  | number n =>
    cases n with
    | integer i =>
      have hhigh : i.toInt < 9223372036854775808 := i.toInt_lt
      have hlt : i.toInt < UInt64.size := by
        unfold UInt64.size
        omega
      rw [floor?_integer, Option.bind_some, Number.positionAt?_of_lt hlt]
      rfl
    | float x =>
      rw [floor?_float, ← x.floor_eq, index?, Number.index?]
      cases x.isFinite with
      | false => rfl
      | true => simp [Number.positionAt?]
    | nan | positiveInfinity | negativeInfinity => rfl
  | _ => rfl

/-- No integer is great enough for this floor, and only one double has it. -/
theorem floor?_eq_size_iff (v : Value) :
    v.floor? = some (UInt64.size : ℤ) ↔ v = .number (.float .wordCount) := by
  have hlimit : (Value.number (.float .wordCount)).floor? = some (UInt64.size : ℤ) := by
    rw [floor?_float, if_pos (by decide), Binary64.value_wordCount, Int.floor_intCast]
  refine ⟨fun h => ?_, fun h => h ▸ hlimit⟩
  cases v with
  | number n =>
    cases n with
    | integer i =>
      have hhigh : i.toInt < 9223372036854775808 := i.toInt_lt
      rw [floor?_integer, Option.some.injEq] at h
      unfold UInt64.size at h
      omega
    | float x =>
      rw [floor?_float] at h
      split at h
      · rw [Binary64.eq_wordCount_of_floor (Option.some.inj h)]
      · cases h
    | nan | positiveInfinity | negativeInfinity => cases h
  | _ => cases h

end Value

/-- The position of a value is the floor of its exact value, as long as that is a word of 64 bits
and not negative, and there is none otherwise: this holds exactly if the floor is not `2 ^ 64`. The
only value with that floor is the double of `2 ^ 64`, which has the greatest position. In any case
values of one floor, such as an integer and the double of the same value, have one position. -/
theorem position_is_floor_iff (v : Value) :
    ((∀ i : Nat, v.index? = some i ↔ v.floor? = some (i : ℤ) ∧ i < UInt64.size) ↔
      v.floor? ≠ some (UInt64.size : ℤ)) ∧
    (v.floor? = some (UInt64.size : ℤ) ↔ v = .number (.float .wordCount)) ∧
    (v = .number (.float .wordCount) → v.index? = some (UInt64.size - 1)) ∧
    ∀ w : Value, v.floor? = w.floor? → v.index? = w.index? := by
  have hlast : v.floor? = some (UInt64.size : ℤ) → v.index? = some (UInt64.size - 1) := by
    intro h
    rw [v.index?_eq_bind_floor?, h, Option.bind_some, Number.positionAt?_size]
  refine ⟨⟨fun hfloor hsize => ?_, fun hsize i => ?_⟩, v.floor?_eq_size_iff,
    fun hv => hlast (v.floor?_eq_size_iff.2 hv), fun w hw => ?_⟩
  · have hposition := ((hfloor _).1 (hlast hsize)).1
    rw [hsize] at hposition
    exact absurd (Option.some.inj hposition) (by decide)
  · rw [v.index?_eq_bind_floor?]
    cases hv : v.floor? with
    | none => simp
    | some k =>
      rw [hv] at hsize
      rw [Option.bind_some, Number.positionAt?_eq_some_iff (fun hk => hsize (congrArg some hk)),
        Option.some.injEq]
  · rw [v.index?_eq_bind_floor?, w.index?_eq_bind_floor?, hw]

/-- The double of `2 ^ 64` has a position, although its floor is beyond the words of 64 bits. -/
theorem double_beyond_words_has_position :
    let v : Value := .number (.float ⟨0x43F0000000000000⟩)
    v.floor? = some 18446744073709551616 ∧ v.index? = some 18446744073709551615 ∧
      ¬∀ i : Nat, v.index? = some i ↔ v.floor? = some (i : ℤ) ∧ i < UInt64.size := by
  intro v
  have hfloor : v.floor? = some 18446744073709551616 := v.floor?_eq_size_iff.2 rfl
  have hposition : v.index? = some 18446744073709551615 := by decide +kernel
  refine ⟨hfloor, hposition, fun hall => ?_⟩
  have hsame := ((hall _).1 hposition).1
  rw [hfloor] at hsame
  exact absurd (Option.some.inj hsame) (by decide)

end ScriptRealm
