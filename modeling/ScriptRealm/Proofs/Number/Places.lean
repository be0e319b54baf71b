import ScriptRealm.Proofs.Number.Shortest

/-!
# Fixed places

Numerals with a given count of places, and the rounding of a double to one. The count of places
tells the grid that is rounded to, so that the numeral is at most half a step of it away from the
double.
-/

namespace ScriptRealm

/-! ## Numerals with places -/

theorem Numeral.eq_zeros_of_value {digits : List Char} (h : ∀ c ∈ digits, c.isDigit = true)
    (hvalue : value digits = 0) : digits = List.replicate digits.length '0' := by
  induction digits with
  | nil => rfl
  | cons c digits ih =>
    rw [value_cons, Nat.add_eq_zero_iff, Nat.mul_eq_zero] at hvalue
    have hpower : 10 ^ digits.length ≠ 0 := Nat.pow_pos (by decide) |>.ne'
    have hzero : c = '0' := by
      by_contra hne
      exact (digitValue_pos (h c (by simp)) hne).ne' (hvalue.1.resolve_right hpower)
    rw [List.length_cons, List.replicate_succ, ← ih (fun d hd => h d (by simp [hd])) hvalue.2,
      hzero]

namespace Binary64

/-- A numeral, filled up in front so that a digit is left of the point. -/
def paddedNumeral (places count : Nat) : List Char :=
  List.replicate (places + 1 - (Numeral.numeral count).length) '0' ++ Numeral.numeral count

/-- One place more takes the last digit. -/
theorem paddedNumeral_succ (places count : Nat) :
    paddedNumeral (places + 1) count =
      paddedNumeral places (count / 10) ++ [(count % 10).digitChar] := by
  unfold paddedNumeral
  by_cases h : count < 10
  · have hzero : Numeral.numeral 0 = ['0'] := Numeral.numeral_of_lt (by decide)
    have hfill : List.replicate (places + 1) '0' = List.replicate places '0' ++ ['0'] :=
      List.replicate_succ'
    rw [Numeral.numeral_of_lt h, Nat.div_eq_of_lt h, Nat.mod_eq_of_lt h, hzero]
    simp only [List.length_singleton, Nat.add_sub_cancel]
    rw [hfill]
  · rw [Numeral.numeral_of_ge (Nat.le_of_not_lt h), List.length_append, List.length_singleton,
      Nat.add_sub_add_right, List.append_assoc]

/-- The places are the last digits, and the digits before them are a numeral. -/
theorem paddedNumeral_split (places count : Nat) :
    ∃ fraction, (∀ c ∈ fraction, c.isDigit = true) ∧ fraction.length = places ∧
      Numeral.value fraction = count % 10 ^ places ∧
      paddedNumeral places count = Numeral.numeral (count / 10 ^ places) ++ fraction := by
  induction places generalizing count with
  | zero =>
    have hlength : 1 ≤ (Numeral.numeral count).length :=
      List.length_pos_iff.2 (Numeral.digits_numeral count).ne_nil
    have hfill : 0 + 1 - (Numeral.numeral count).length = 0 := by omega
    refine ⟨[], by simp, rfl, ?_, ?_⟩
    · rw [Nat.pow_zero, Nat.mod_one, Numeral.value_nil]
    · rw [paddedNumeral, hfill, List.replicate_zero, List.nil_append, Nat.pow_zero, Nat.div_one,
        List.append_nil]
  | succ places ih =>
    obtain ⟨fraction, hdigits, hlength, hvalue, hsplit⟩ := ih (count / 10)
    have hmod : count % 10 < 10 := Nat.mod_lt count (by decide)
    have hlast := Numeral.isDigit_digitChar hmod
    refine ⟨fraction ++ [(count % 10).digitChar], ?_, ?_, ?_, ?_⟩
    · exact List.forall_mem_append.2 ⟨hdigits, by simpa using hlast⟩
    · rw [List.length_append, List.length_singleton, hlength]
    · rw [Numeral.value_concat, hvalue, Numeral.digitValue_digitChar hmod, Nat.pow_succ',
        Nat.mod_mul]
      omega
    · rw [paddedNumeral_succ, hsplit, Nat.pow_succ', Nat.div_div_eq_div_mul, List.append_assoc]

/-- The point stands in front of the places, if there are any. -/
theorem placesText_eq (places count : Nat) :
    ∃ fraction, (∀ c ∈ fraction, c.isDigit = true) ∧ fraction.length = places ∧
      Numeral.value fraction = count % 10 ^ places ∧
      placesText places count = Numeral.numeral (count / 10 ^ places) ++
        (if places = 0 then [] else '.' :: fraction) := by
  obtain ⟨fraction, hdigits, hlength, hvalue, hsplit⟩ := paddedNumeral_split places count
  refine ⟨fraction, hdigits, hlength, hvalue, ?_⟩
  have hcut : (Numeral.numeral (count / 10 ^ places) ++ fraction).length - places =
      (Numeral.numeral (count / 10 ^ places)).length := by
    rw [List.length_append, hlength, Nat.add_sub_cancel]
  unfold placesText
  extract_lets digits padded cut
  have hpadded : padded = Numeral.numeral (count / 10 ^ places) ++ fraction := hsplit
  have hcut' : cut = (Numeral.numeral (count / 10 ^ places)).length := by
    rw [← hcut, ← hpadded]
  rw [hcut', hpadded, List.take_left, List.drop_left]

end Binary64

/-- A text is a numeral with a given count of places, and a literal consists of its parts. The point
is left out where there are no places. -/
structure Literal.Fixed (l : Literal) (places : Nat) (s : List Char) : Prop where
  whole : ∃ n, l.whole = Numeral.numeral n
  fraction : ∀ c ∈ l.fraction, c.isDigit = true
  length : l.fraction.length = places
  exponent : l.exponent = 0
  text : s = (if l.negative then ['-'] else []) ++ (l.whole ++
    (if places = 0 then [] else '.' :: l.fraction))

namespace Literal.Fixed

variable {l k : Literal} {places : Nat} {s : List Char} (h : l.Fixed places s)
include h

/-- A numeral with places is a literal. -/
theorem written : l.Written s := by
  obtain ⟨n, hn⟩ := h.whole
  have hwhole : Digits l.whole := hn ▸ Numeral.digits_numeral n
  have hmantissa : Mantissa (l.whole ++ (if places = 0 then [] else '.' :: l.fraction)) l.whole
      l.fraction := by
    split
    · rename_i hzero
      have hnil : l.fraction = [] := List.length_eq_zero_iff.1 (h.length.trans hzero)
      rw [List.append_nil, hnil]
      exact .integral hwhole
    · exact .point hwhole h.fraction
  have hexponent : Exponent [] l.exponent := h.exponent ▸ .none
  refine ⟨_, _, [], by rw [List.append_nil]; exact h.text, ?_, hmantissa, hexponent⟩
  cases l.negative
  · exact .none
  · exact .minus

/-- The digits count the steps of the last place. -/
theorem value_eq :
    l.value = Binary64.signed l.negative
      (Numeral.value (l.whole ++ l.fraction) / 10 ^ places) := by
  rw [value, Decimal.value, h.exponent, h.length, zero_sub, zpow_neg, zpow_natCast, div_eq_mul_inv]

theorem exists_multiple : ∃ i : ℤ, l.value = i / 10 ^ places := by
  rw [h.value_eq, Binary64.signed]
  split
  · exact ⟨-Numeral.value (l.whole ++ l.fraction), by push_cast; rw [neg_div]⟩
  · exact ⟨Numeral.value (l.whole ++ l.fraction), by push_cast; rfl⟩

/-- No integer is within half a step of the value but the value itself. -/
theorem value_eq_of_near {i : ℤ} (hnear : |l.value - i| ≤ 1 / 10 ^ places / 2) : l.value = i := by
  have hten : (0 : ℚ) < 10 ^ places := by positivity
  obtain ⟨j, hj⟩ := h.exists_multiple
  have hscaled : l.value - i = ((j - i * 10 ^ places : ℤ) : ℚ) / 10 ^ places := by
    rw [hj]
    push_cast
    field_simp
  rw [hscaled, abs_div, abs_of_pos hten, div_right_comm, div_le_div_iff_of_pos_right hten] at hnear
  have hzero : j - i * 10 ^ places = 0 := by
    by_contra hne
    have hone : (1 : ℚ) ≤ |((j - i * 10 ^ places : ℤ) : ℚ)| := by
      exact_mod_cast Int.one_le_abs hne
    linarith
  rw [hzero, Int.cast_zero, zero_div] at hscaled
  linarith

theorem value_unique (hk : k.Fixed places s) : l.value = k.value := by
  rw [Written.unique h.written hk.written]

end Literal.Fixed

/-- The numeral of an integer with a given count of places. -/
def Numeral.withPlaces (places : Nat) (i : ℤ) : List Char :=
  signed i ++ (if places = 0 then [] else '.' :: List.replicate places '0')

theorem Literal.exists_fixed_withPlaces (places : Nat) (i : ℤ) :
    ∃ l : Literal, l.Fixed places (Numeral.withPlaces places i) ∧ l.value = i := by
  have hfixed : Literal.Fixed ⟨decide (i < 0), Numeral.numeral i.natAbs,
      List.replicate places '0', 0⟩ places (Numeral.withPlaces places i) := by
    refine ⟨⟨_, rfl⟩, Numeral.isDigit_zeros places, List.length_replicate, rfl, ?_⟩
    rw [Numeral.withPlaces, Numeral.signed, ← List.append_assoc]
    by_cases hneg : i < 0 <;> simp [hneg]
  refine ⟨_, hfixed, ?_⟩
  have hten : (10 : ℚ) ^ places ≠ 0 := by positivity
  rw [hfixed.value_eq, Numeral.value_append_replicate_zero, Numeral.value_numeral, Nat.cast_mul,
    Nat.cast_pow, Nat.cast_ofNat, mul_div_cancel_right₀ _ hten]
  exact Binary64.signed_natAbs i

/-! ## Rounding to places -/

namespace Binary64

/-- A double is rounded to the nearest multiple of the last place. -/
theorem exists_fixed_fixedText {x : Binary64} (hx : x.isFinite = true) (places : Nat) :
    ∃ l : Literal, l.Fixed places (x.fixedText places) ∧
      |l.value - x.value| ≤ 1 / 10 ^ places / 2 := by
  have hten : (0 : ℚ) < 10 ^ places := by positivity
  obtain ⟨count, hcount⟩ :
      ∃ count, count = roundDiv (x.magnitude * Numeral.tenTo places) unitsPerOne := ⟨_, rfl⟩
  obtain ⟨fraction, hdigits, hlength, hvalue, htext⟩ := placesText_eq places count
  have hfixed : Literal.Fixed ⟨x.negative, Numeral.numeral (count / 10 ^ places), fraction, 0⟩
      places (x.fixedText places) := by
    refine ⟨⟨_, rfl⟩, hdigits, hlength, rfl, ?_⟩
    rw [fixedText, if_pos hx, ← hcount, htext, withSign]
    cases x.negative <;> rfl
  refine ⟨_, hfixed, ?_⟩
  have hdigitsValue :
      Numeral.value (Numeral.numeral (count / 10 ^ places) ++ fraction) = count := by
    rw [Numeral.value_append, Numeral.value_numeral, hvalue, hlength]
    exact Nat.div_add_mod' count _
  have hone : 0 < unitsPerOne := by decide
  have hnear := (roundDiv_near (x.magnitude * Numeral.tenTo places) hone).1
  rw [← hcount, Nat.cast_mul, Numeral.cast_tenTo, mul_div_right_comm] at hnear
  have hscaled : (count : ℚ) / 10 ^ places - ordinalValue x.ordinal =
      (count - x.magnitude / unitsPerOne * 10 ^ places) / 10 ^ places := by
    rw [sub_div, mul_div_cancel_right₀ _ hten.ne', ordinalValue, magnitude]
  rw [hfixed.value_eq, hdigitsValue, x.value_eq, abs_signed_sub_signed _ _
    (div_nonneg (Nat.cast_nonneg _) hten.le) (ordinalValue_nonneg _), if_pos rfl, hscaled, abs_div,
    abs_of_pos hten, div_right_comm, div_le_div_iff_of_pos_right hten]
  exact hnear

/-- An integer that is a double has its own digits and zeros for the places. -/
theorem fixedText_ofInt {i : ℤ} (hrange : i.natAbs ≤ 2 ^ 64) (h : (ofInt i).value = i)
    (places : Nat) : (ofInt i).fixedText places = Numeral.withPlaces places i := by
  have hsign : (ofInt i).negative = decide (i < 0) := negative_ofOrdinal _ (ordinalOfUnits_lt _ _)
  have hmagnitude : (ofInt i).magnitude = i.natAbs * unitsPerOne := by
    rw [← natAbs_units, value_eq_intCast_iff.1 h, Int.natAbs_mul, Int.natAbs_natCast]
  have hcount : roundDiv ((ofInt i).magnitude * Numeral.tenTo places) unitsPerOne =
      i.natAbs * 10 ^ places := by
    rw [hmagnitude, Nat.mul_right_comm]
    exact roundDiv_mul_right _ (by decide)
  have htext : placesText places (i.natAbs * 10 ^ places) =
      Numeral.numeral i.natAbs ++
        (if places = 0 then [] else '.' :: List.replicate places '0') := by
    obtain ⟨fraction, hdigits, hlength, hvalue, htext⟩ :=
      placesText_eq places (i.natAbs * 10 ^ places)
    rw [Nat.mul_mod_left] at hvalue
    rw [htext, Numeral.eq_zeros_of_value hdigits hvalue, hlength,
      Nat.mul_div_cancel _ (Nat.pow_pos (by decide))]
  rw [fixedText, if_pos (isFinite_ofInt hrange), hcount, htext, withSign, hsign,
    Numeral.withPlaces, Numeral.signed]
  by_cases hneg : i < 0 <;> simp [hneg]

end Binary64

end ScriptRealm
