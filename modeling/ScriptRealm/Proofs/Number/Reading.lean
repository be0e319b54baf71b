import ScriptRealm.Proofs.Number.Classification
import ScriptRealm.Proofs.Number.Decimals

/-!
# Reading numbers

What a text stands for: nothing at all for zero, three words for the infinities, a signed run of
digits for an integer if that has 64 bits, and any other literal for the normal form of the double
that its value rounds to. A text of another form stands for NaN. Each text stands for one number,
and reading gives that number, unless the text is a literal beyond the finite doubles: that is read
as NaN too.
-/

namespace ScriptRealm

namespace Number

/-- Doubles that one rational number rounds to have the same normal form. -/
theorem ofBinary64_eq_of_roundsTo {v : ℚ} {x y : Binary64} (hx : Binary64.RoundsTo v x)
    (hy : Binary64.RoundsTo v y) : ofBinary64 x = ofBinary64 y := by
  rcases hx.unique hy with rfl | ⟨hxfinite, hyfinite, hxzero, hyzero⟩
  · rfl
  · have hzero : ∀ {z : Binary64}, z.isFinite = true → z.value = 0 → ofBinary64 z = .integer 0 := by
      intro z hz hvalue
      refine (ofBinary64_eq_integer_iff z 0).2 ⟨⟨hz, ?_⟩, by decide⟩
      rw [hvalue, Int64.toInt_zero, Int.cast_zero]
    rw [hzero hxfinite hxzero, hzero hyfinite hyzero]

/-- The rounding of a rational number is no NaN. -/
theorem ofBinary64_ne_nan_of_roundsTo {v : ℚ} {x : Binary64} (h : Binary64.RoundsTo v x) :
    ofBinary64 x ≠ .nan := by
  rw [ne_eq, ofBinary64_eq_nan_iff]
  intro hnan
  cases h with
  | overflow => exact absurd hnan (by cases decide (v < 0) <;> decide)
  | finite _ hfinite =>
    rw [Binary64.isFinite_of_isNaN hnan] at hfinite
    cases hfinite

/-! ## What texts stand for -/

/-- The words for the infinities. -/
def InfinityWord (s : List Char) : Prop :=
  s = "Infinity".toList ∨ s = "+Infinity".toList ∨ s = "-Infinity".toList

/-- What a text without white space around it stands for. -/
inductive Denotes : List Char → Number → Prop where
  | empty : Denotes [] (.integer 0)
  | positiveInfinity {s : List Char} (h : s = "Infinity".toList ∨ s = "+Infinity".toList) :
      Denotes s .positiveInfinity
  | negativeInfinity {s : List Char} (h : s = "-Infinity".toList) : Denotes s .negativeInfinity
  | integer {s : List Char} {i : Int64} (h : Literal.WrittenInteger s i.toInt) :
      Denotes s (.integer i)
  | literal {s : List Char} {l : Literal} {x : Binary64} (h : Literal.Written s l)
      (hinteger : ∀ i : Int64, ¬Literal.WrittenInteger s i.toInt)
      (hround : Binary64.RoundsTo l.value x) : Denotes s (.ofBinary64 x)
  | nan {s : List Char} (hempty : s ≠ []) (hword : ¬InfinityWord s)
      (h : ∀ l, ¬Literal.Written s l) : Denotes s .nan

/-- A literal whose value is beyond the finite doubles. -/
def Overflows (s : List Char) : Prop :=
  ∃ l : Literal, l.Written s ∧ Binary64.overflowThreshold ≤ |l.value|

end Number

/-! ## Literals of one text -/

namespace Literal

theorem Written.not_special {s : List Char} {l : Literal} (h : l.Written s) :
    s ≠ [] ∧ ¬Number.InfinityWord s := by
  have hread : parse? s ≠ none := by
    rw [parse?_of_written h]
    exact Option.some_ne_none l
  constructor
  · rintro rfl
    exact hread (by decide)
  · rintro (rfl | rfl | rfl) <;> exact hread (by decide)

/-- The literal of an integer has that integer for its value. -/
theorem WrittenInteger.value_eq {s : List Char} {i : Int} {l : Literal} (hi : WrittenInteger s i)
    (hl : l.Written s) : l.value = i := by
  obtain ⟨k, hk, hfraction, hexponent, rfl⟩ := hi.written
  obtain rfl := hl.unique hk
  rw [value, hfraction, hexponent, List.append_nil, Decimal.value, List.length_nil, Nat.cast_zero,
    sub_zero, zpow_zero, mul_one, signedValue, Binary64.signed, apply_ite Int.cast, Int.cast_neg,
    Int.cast_natCast]

end Literal

namespace Number

/-- An integer of 64 bits is far from the bounds of the finite doubles. -/
theorem not_overflows_of_writtenInteger {t : List Char} {i : Int64}
    (h : Literal.WrittenInteger t i.toInt) : ¬Overflows t := by
  rintro ⟨l, hl, hlarge⟩
  have hlow := i.le_toInt
  have hhigh := i.toInt_lt
  have hbound := Binary64.intCast_lt_overflowThreshold (i := i.toInt) (by omega)
  rw [h.value_eq hl] at hlarge
  exact absurd hbound (not_lt.2 hlarge)

/-- Beyond the finite doubles a text stands for the infinity of its sign. -/
theorem Denotes.eq_of_overflow {t : List Char} {n : Number} {l : Literal} (h : Denotes t n)
    (hl : l.Written t) (hlarge : Binary64.overflowThreshold ≤ |l.value|) :
    n = .ofBinary64 (Binary64.infinity (decide (l.value < 0))) := by
  obtain ⟨hempty, hword⟩ := hl.not_special
  cases h with
  | empty => exact absurd rfl hempty
  | positiveInfinity h => exact absurd (h.elim .inl (.inr ∘ .inl)) hword
  | negativeInfinity h => exact absurd (.inr (.inr h)) hword
  | integer h => exact absurd ⟨l, hl, hlarge⟩ (not_overflows_of_writtenInteger h)
  | nan _ _ h => exact absurd hl (h l)
  | literal h _ hround =>
    obtain rfl := h.unique hl
    exact ofBinary64_eq_of_roundsTo hround (.overflow hlarge)

/-- Only what is no literal stands for NaN. -/
theorem denotes_nan_iff (t : List Char) :
    Denotes t .nan ↔ t ≠ [] ∧ ¬InfinityWord t ∧ ∀ l, ¬Literal.Written t l := by
  constructor
  · intro h
    generalize hnan : Number.nan = n at h
    cases h with
    | nan hempty hword h => exact ⟨hempty, hword, h⟩
    | literal h hinteger hround => exact absurd hnan.symm (ofBinary64_ne_nan_of_roundsTo hround)
    | empty | positiveInfinity | negativeInfinity | integer => cases hnan
  · rintro ⟨hempty, hword, h⟩
    exact .nan hempty hword h

/-! ## Reading -/

section OfText

variable {s : String} {t : List Char} (ht : Text.trim s.toList = t)
include ht

/-- Apart from the empty text and the words for the infinities, an integer is tried first and any
literal second. -/
theorem ofText_of_not_special (hempty : t ≠ []) (hword : ¬InfinityWord t) :
    ofText s = match Literal.integer? t with
      | some i => .integer i
      | none =>
        match Literal.parse? t with
        | some l => if l.toBinary64.isFinite then .ofBinary64 l.toBinary64 else .nan
        | none => .nan := by
  have hpositive : ¬(t = "Infinity".toList ∨ t = "+Infinity".toList) :=
    fun h => hword (h.elim .inl (.inr ∘ .inl))
  have hnegative : ¬t = "-Infinity".toList := fun h => hword (.inr (.inr h))
  unfold ofText
  simp only [ht]
  exact (if_neg hempty).trans ((if_neg hpositive).trans (if_neg hnegative))

theorem ofText_of_writtenInteger {i : Int64} (h : Literal.WrittenInteger t i.toInt) :
    ofText s = .integer i := by
  obtain ⟨l, hl, -⟩ := h.written
  obtain ⟨hempty, hword⟩ := hl.not_special
  rw [ofText_of_not_special ht hempty hword, (Literal.integer?_eq_some_iff t i).2 h]

theorem ofText_of_written {l : Literal} (h : l.Written t)
    (hinteger : ∀ i : Int64, ¬Literal.WrittenInteger t i.toInt) :
    ofText s = if l.toBinary64.isFinite then .ofBinary64 l.toBinary64 else .nan := by
  obtain ⟨hempty, hword⟩ := h.not_special
  have hnone : Literal.integer? t = none :=
    Option.eq_none_iff_forall_ne_some.2 fun i hi =>
      hinteger i ((Literal.integer?_eq_some_iff t i).1 hi)
  rw [ofText_of_not_special ht hempty hword, hnone, Literal.parse?_of_written h]

theorem ofText_of_not_written (hempty : t ≠ []) (hword : ¬InfinityWord t)
    (h : ∀ l, ¬Literal.Written t l) : ofText s = .nan := by
  have hinteger : Literal.integer? t = none := by
    refine Option.eq_none_iff_forall_ne_some.2 fun i hi => ?_
    obtain ⟨l, hl, -⟩ := ((Literal.integer?_eq_some_iff t i).1 hi).written
    exact h l hl
  have hliteral : Literal.parse? t = none :=
    Option.eq_none_iff_forall_ne_some.2 fun l hl => h l (Literal.written_of_parse? hl)
  rw [ofText_of_not_special ht hempty hword, hinteger, hliteral]

/-- Apart from overflows, reading gives the number that a text stands for. -/
theorem ofText_of_denotes {n : Number} (h : Denotes t n) (hfinite : ¬Overflows t) :
    ofText s = n := by
  cases h with
  | empty =>
    unfold ofText
    simp only [ht, if_true]
  | positiveInfinity h =>
    rcases h with rfl | rfl <;> (unfold ofText; rw [ht]; rfl)
  | negativeInfinity h =>
    subst h
    unfold ofText
    rw [ht]
    rfl
  | integer h => exact ofText_of_writtenInteger ht h
  | nan hempty hword h => exact ofText_of_not_written ht hempty hword h
  | literal h hinteger hround =>
    have hread := Binary64.roundsTo_toBinary64 h
    have hsmall := not_le.1 fun hlarge => hfinite ⟨_, h, hlarge⟩
    have hfiniteRead := hread.isFinite_iff.2 hsmall
    rw [ofText_of_written ht h hinteger, if_pos hfiniteRead]
    exact ofBinary64_eq_of_roundsTo hread hround

theorem ofText_of_overflows (h : Overflows t) : ofText s = .nan := by
  obtain ⟨l, hl, hlarge⟩ := h
  have hinteger : ∀ i : Int64, ¬Literal.WrittenInteger t i.toInt :=
    fun i hi => not_overflows_of_writtenInteger hi ⟨l, hl, hlarge⟩
  have hread := Binary64.roundsTo_toBinary64 hl
  have hinfinite : ¬l.toBinary64.isFinite = true :=
    fun hfinite => absurd (hread.isFinite_iff.1 hfinite) (not_lt.2 hlarge)
  rw [ofText_of_written ht hl hinteger, if_neg hinfinite]

/-- A text stands for one number only. -/
theorem denotes_unique {n m : Number} (hn : Denotes t n) (hm : Denotes t m) : n = m := by
  by_cases hoverflow : Overflows t
  · obtain ⟨l, hl, hlarge⟩ := hoverflow
    rw [hn.eq_of_overflow hl hlarge, hm.eq_of_overflow hl hlarge]
  · rw [← ofText_of_denotes ht hn hoverflow, ← ofText_of_denotes ht hm hoverflow]

end OfText

/-- Every text stands for a number. -/
theorem exists_denotes (t : List Char) : ∃ n, Denotes t n := by
  by_cases hempty : t = []
  · subst hempty
    exact ⟨_, .empty⟩
  by_cases hword : InfinityWord t
  · rcases hword with h | h | h
    · exact ⟨_, .positiveInfinity (.inl h)⟩
    · exact ⟨_, .positiveInfinity (.inr h)⟩
    · exact ⟨_, .negativeInfinity h⟩
  by_cases hinteger : ∃ i : Int64, Literal.WrittenInteger t i.toInt
  · obtain ⟨i, hi⟩ := hinteger
    exact ⟨_, .integer hi⟩
  by_cases hliteral : ∃ l, Literal.Written t l
  · obtain ⟨l, hl⟩ := hliteral
    exact ⟨_, .literal hl (not_exists.1 hinteger) (Binary64.roundsTo_toBinary64 hl)⟩
  · exact ⟨_, .nan hempty hword (not_exists.1 hliteral)⟩

end Number

/-- Every text stands for exactly one number. Reading gives that number if and only if the text is
no literal beyond the finite doubles. It gives NaN for the texts that are no literals, and beyond
that for just these literals. -/
theorem reading_gives_denoted_iff (s : String) :
    (∃! n, Number.Denotes (Text.trim s.toList) n) ∧
      (∀ n, Number.Denotes (Text.trim s.toList) n →
        (Number.ofText s = n ↔ ¬Number.Overflows (Text.trim s.toList))) ∧
      (Number.ofText s = .nan ↔
        (Text.trim s.toList ≠ [] ∧ ¬Number.InfinityWord (Text.trim s.toList) ∧
          ∀ l, ¬Literal.Written (Text.trim s.toList) l) ∨
        Number.Overflows (Text.trim s.toList)) := by
  obtain ⟨t, ht⟩ : ∃ t, Text.trim s.toList = t := ⟨_, rfl⟩
  rw [ht]
  obtain ⟨n, hn⟩ := Number.exists_denotes t
  refine ⟨⟨n, hn, fun m hm => Number.denotes_unique ht hm hn⟩, fun m hm => ?_, ?_⟩
  · refine ⟨fun hread hoverflow => ?_, Number.ofText_of_denotes ht hm⟩
    rw [Number.ofText_of_overflows ht hoverflow] at hread
    obtain ⟨l, hl, hlarge⟩ := hoverflow
    rw [hm.eq_of_overflow hl hlarge] at hread
    exact Number.ofBinary64_ne_nan_of_roundsTo (.overflow hlarge) hread.symm
  · rw [← Number.denotes_nan_iff]
    constructor
    · intro hread
      by_cases hoverflow : Number.Overflows t
      · exact .inr hoverflow
      · rw [Number.ofText_of_denotes ht hn hoverflow] at hread
        exact .inl (hread ▸ hn)
    · rintro (hnan | hoverflow)
      · by_cases hoverflow : Number.Overflows t
        · exact Number.ofText_of_overflows ht hoverflow
        · exact Number.ofText_of_denotes ht hnan hoverflow
      · exact Number.ofText_of_overflows ht hoverflow

/-- A literal beyond the finite doubles stands for an infinity, and is read as NaN. -/
theorem overflowing_literal_reads_nan :
    Number.Denotes (Text.trim "1e400".toList) .positiveInfinity ∧
      Number.ofText "1e400" = .nan := by
  have hwritten : Literal.Written (Text.trim "1e400".toList) ⟨false, ['1'], [], 400⟩ :=
    Literal.written_of_parse? (by decide)
  have hinteger : ∀ i : Int64, ¬Literal.WrittenInteger (Text.trim "1e400".toList) i.toInt := by
    intro i hi
    have hnone : Literal.integer? (Text.trim "1e400".toList) = none := by decide
    rw [(Literal.integer?_eq_some_iff _ i).2 hi] at hnone
    cases hnone
  have hround := Binary64.roundsTo_toBinary64 hwritten
  have hinfinity : Literal.toBinary64 ⟨false, ['1'], [], 400⟩ = Binary64.infinity false := by
    decide +kernel
  rw [hinfinity] at hround
  exact ⟨.literal hwritten hinteger hround, by decide +kernel⟩

end ScriptRealm
