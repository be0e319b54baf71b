import ScriptRealm.Proofs.Number.Reading
import ScriptRealm.Proofs.Number.Shortest

/-!
# Texts of numbers

The text of a number in normal form, with any white space around it, is read as that number.
Integers are read by the reader of integers. That reader must not capture the digits of a double:
from `2 ^ 63` upward the digits are no integer of 64 bits, although at `2 ^ 63` itself they are not
exact.
-/

namespace ScriptRealm

/-! ## White space -/

namespace Text

/-- A text without white space, which has at least one character. -/
structure Solid (t : List Char) : Prop where
  ne_nil : t ≠ []
  all : ∀ c ∈ t, isBlank c = false

/-- Solid texts can be told by a test. -/
theorem solid_iff (t : List Char) : Solid t ↔ t ≠ [] ∧ t.all (!isBlank ·) = true := by
  constructor
  · exact fun h => ⟨h.ne_nil, by simpa using h.all⟩
  · exact fun h => ⟨h.1, by simpa using h.2⟩

/-- Blanks are dropped up to a solid text and no further. -/
theorem dropWhile_isBlank_append {a t : List Char} (ha : ∀ c ∈ a, isBlank c = true)
    (ht : Solid t) (r : List Char) : (a ++ (t ++ r)).dropWhile isBlank = t ++ r := by
  rw [List.dropWhile_append_of_pos ha]
  cases t with
  | nil => exact absurd rfl ht.ne_nil
  | cons c t =>
    have hc : isBlank c = false := ht.all c (by simp)
    exact List.dropWhile_cons_of_neg (by simp [hc])

theorem Solid.reverse {t : List Char} (h : Solid t) : Solid t.reverse :=
  ⟨by simpa using h.ne_nil, by simpa using h.all⟩

/-- Trimming takes away the white space around a text that has none itself. -/
theorem trim_surrounded {before t after : List Char} (hbefore : ∀ c ∈ before, isBlank c = true)
    (hafter : ∀ c ∈ after, isBlank c = true) (ht : Solid t) : trim (before ++ t ++ after) = t := by
  have hend : ∀ c ∈ after.reverse, isBlank c = true := by simpa using hafter
  have hstrip := dropWhile_isBlank_append hend ht.reverse []
  rw [List.append_nil] at hstrip
  rw [trim, List.append_assoc, dropWhile_isBlank_append hbefore ht, List.reverse_append, hstrip,
    List.reverse_reverse]

theorem isBlank_of_isDigit {c : Char} (h : c.isDigit = true) : isBlank c = false := by
  obtain ⟨hlow, hhigh⟩ := Numeral.toNat_of_isDigit h
  simp only [isBlank, Bool.or_eq_false_iff, Bool.and_eq_false_iff, decide_eq_false_iff_not,
    beq_eq_false_iff_ne]
  omega

end Text

namespace Literal

/-- No part of a literal has a blank in it. -/
theorem Sign.not_blank {sign : List Char} {negative : Bool} (h : Sign sign negative) :
    ∀ c ∈ sign, Text.isBlank c = false := by
  cases h with
  | none => simp
  | plus => simpa using (by decide : Text.isBlank '+' = false)
  | minus => simpa using (by decide : Text.isBlank '-' = false)

theorem Mantissa.not_blank {mantissa whole fraction : List Char}
    (h : Mantissa mantissa whole fraction) : ∀ c ∈ mantissa, Text.isBlank c = false := by
  have hdigits : ∀ c ∈ whole ++ fraction, Text.isBlank c = false :=
    fun c hc => Text.isBlank_of_isDigit (h.digits c hc)
  have hpoint : Text.isBlank '.' = false := by decide
  cases h with
  | integral => simpa using hdigits
  | point => simpa [hpoint, or_imp, forall_and] using hdigits
  | fraction => simpa [hpoint] using hdigits

theorem Exponent.not_blank {text : List Char} {exponent : Int} (h : Exponent text exponent) :
    ∀ c ∈ text, Text.isBlank c = false := by
  cases h with
  | none => simp
  | @marked mark sign digits negative hmark hsign hdigits =>
    have hmarkBlank : Text.isBlank mark = false := by rcases hmark with rfl | rfl <;> decide
    have hrest : ∀ c ∈ digits, Text.isBlank c = false :=
      fun c hc => Text.isBlank_of_isDigit (hdigits.all c hc)
    exact List.forall_mem_cons.2 ⟨hmarkBlank, List.forall_mem_append.2 ⟨hsign.not_blank, hrest⟩⟩

/-- Literals are without white space. -/
theorem Written.solid {s : List Char} {l : Literal} (h : l.Written s) : Text.Solid s := by
  obtain ⟨sign, mantissa, exponent, rfl, hsign, hmantissa, hexponent⟩ := id h
  refine ⟨h.not_special.1, ?_⟩
  rw [List.forall_mem_append, List.forall_mem_append]
  exact ⟨hsign.not_blank, hmantissa.not_blank, hexponent.not_blank⟩

/-- The numeral of an integer is written as the integer. -/
theorem writtenInteger_signed (i : Int) : WrittenInteger (Numeral.signed i) i := by
  have hdigits := Numeral.digits_numeral i.natAbs
  have hvalue := Numeral.value_numeral i.natAbs
  unfold Numeral.signed
  split
  · refine ⟨['-'], _, true, rfl, .minus, hdigits, ?_⟩
    rw [signedValue, hvalue, if_pos rfl]
    omega
  · refine ⟨[], _, false, rfl, .none, hdigits, ?_⟩
    rw [signedValue, hvalue, if_neg Bool.false_ne_true]
    omega

end Literal

/-! ## Doubles at the bounds of the integers -/

namespace Binary64

/-- The double of `2 ^ 63` with a given sign. -/
def limit (negative : Bool) : Binary64 :=
  ofOrdinal negative 0x43E0000000000000

/-- The two limits of the integers are doubles. -/
theorem isFinite_limit (negative : Bool) : (limit negative).isFinite = true := by
  cases negative <;> decide

theorem value_limit (negative : Bool) :
    (limit negative).value = (if negative then -2 ^ 63 else 2 ^ 63 : ℤ) :=
  value_eq_intCast_iff.2 (by cases negative <;> decide +kernel)

/-- The digits of these doubles are beyond the integers of 64 bits. -/
theorem integer?_text_limit (negative : Bool) :
    Literal.integer? ((limit negative).text .plain) = none := by
  cases negative <;> decide +kernel

end Binary64

namespace Number

/-- A number that is its own normal form. -/
def IsNormal (n : Number) : Prop :=
  ∀ x, n = .float x → ofBinary64 x = n

theorem isNormal_of_ne_float {n : Number} (h : ∀ x, n ≠ .float x) : n.IsNormal :=
  fun x hx => absurd hx (h x)

/-- What is made from a double, and what is read from a text, is normal. -/
theorem isNormal_ofBinary64 (x : Binary64) : (ofBinary64 x).IsNormal := by
  intro y hy
  obtain ⟨rfl, -⟩ := (ofBinary64_eq_float_iff x y).1 hy
  rfl

/-- Texts stand for numbers in normal form. -/
theorem Denotes.isNormal {t : List Char} {n : Number} (h : Denotes t n) : n.IsNormal := by
  cases h with
  | literal => exact isNormal_ofBinary64 _
  | empty | positiveInfinity | negativeInfinity | integer | nan =>
    exact isNormal_of_ne_float (by simp)

theorem isNormal_ofText (s : String) : (ofText s).IsNormal := by
  by_cases hoverflow : Overflows (Text.trim s.toList)
  · rw [ofText_of_overflows rfl hoverflow]
    exact isNormal_of_ne_float (by simp)
  · obtain ⟨n, hn⟩ := exists_denotes (Text.trim s.toList)
    rw [ofText_of_denotes rfl hn hoverflow]
    exact hn.isNormal

/-- Of the numbers in normal form, only the one for NaNs is a NaN. -/
theorem IsNormal.isNaN_eq_false {n : Number} (h : n.IsNormal) (hnan : n ≠ .nan) :
    n.isNaN = false := by
  cases n with
  | float x =>
    rw [isNaN, ← Bool.not_eq_true, ← ofBinary64_eq_nan_iff, h x rfl]
    simp
  | nan => exact absurd rfl hnan
  | integer | positiveInfinity | negativeInfinity => rfl

/-- A double in normal form that an integer of 64 bits rounds to lies at a bound of these integers.
-/
theorem exists_limit_of_roundsTo {x : Binary64} (hx : ofBinary64 x = .float x) {i : Int64}
    (h : Binary64.RoundsTo i.toInt x) : ∃ negative, x = Binary64.limit negative := by
  obtain ⟨-, hfinite, hfraction⟩ := (ofBinary64_eq_float_iff x x).1 hx
  obtain ⟨j, hj⟩ := h.exists_int hfinite
  have hlow : -2 ^ 63 ≤ j := by
    have hle := h.ge_of_ge hfinite (Binary64.isFinite_limit true)
    rw [Binary64.value_limit, hj] at hle
    have hbound := i.le_toInt
    exact_mod_cast hle (by exact_mod_cast hbound)
  have hhigh : j ≤ 2 ^ 63 := by
    have hle := h.le_of_le hfinite (Binary64.isFinite_limit false)
    rw [Binary64.value_limit, hj] at hle
    have hbound := i.toInt_lt
    exact_mod_cast hle (by exact_mod_cast hbound.le)
  -- the integers in between have 64 bits, and only the least of them is left a double
  obtain ⟨negative, rfl⟩ : ∃ negative : Bool, j = if negative then -2 ^ 63 else 2 ^ 63 := by
    by_cases hlt : j < 2 ^ 63
    · have hsame : (Int64.ofInt j).toInt = j := Int64.toInt_ofInt_of_le hlow hlt
      have hleast := hfraction (Int64.ofInt j) (by rw [hsame, hj])
      rw [hleast] at hsame
      exact ⟨true, hsame.symm⟩
    · exact ⟨false, le_antisymm hhigh (not_lt.1 hlt)⟩
  refine ⟨negative, Binary64.eq_of_value_eq (hj.trans (Binary64.value_limit negative).symm) ?_⟩
  rw [hj]
  cases negative <;> norm_num

/-- The reader of integers does not capture the digits of a double in normal form. -/
theorem not_writtenInteger_text {x : Binary64} (hx : ofBinary64 x = .float x) (i : Int64) :
    ¬Literal.WrittenInteger (x.text .plain) i.toInt := by
  intro hi
  obtain ⟨-, hfinite, -⟩ := (ofBinary64_eq_float_iff x x).1 hx
  obtain ⟨l, hl, hround⟩ := Binary64.exists_written_text hfinite
  -- an integral double that is not normalised to an integer is one of two limits
  rw [hi.value_eq hl] at hround
  obtain ⟨negative, rfl⟩ := exists_limit_of_roundsTo hx hround
  have hread := (Literal.integer?_eq_some_iff _ i).2 hi
  rw [Binary64.integer?_text_limit] at hread
  cases hread

/-- The text of a number in normal form is one that stands for the number. -/
theorem text_denotes {n : Number} (hn : n.IsNormal) :
    Denotes n.text.toList n ∧ ¬Overflows n.text.toList ∧ Text.Solid n.text.toList := by
  -- what is no literal cannot overflow
  have hword : ∀ {t : List Char}, Literal.parse? t = none → ¬Overflows t := by
    rintro t hnone ⟨l, hl, -⟩
    rw [Literal.parse?_of_written hl] at hnone
    cases hnone
  cases n with
  | integer i =>
    have hwritten := Literal.writtenInteger_signed i.toInt
    obtain ⟨l, hl, -⟩ := hwritten.written
    rw [text, String.toList_ofList]
    exact ⟨.integer hwritten, not_overflows_of_writtenInteger hwritten, hl.solid⟩
  | float x =>
    have hx : ofBinary64 x = .float x := hn x rfl
    obtain ⟨-, hfinite, -⟩ := (ofBinary64_eq_float_iff x x).1 hx
    obtain ⟨l, hl, hround⟩ := Binary64.exists_written_text hfinite
    have hdenotes := Denotes.literal hl (not_writtenInteger_text hx) hround
    rw [text, String.toList_ofList]
    refine ⟨hx ▸ hdenotes, ?_, hl.solid⟩
    -- the literal is the only one that the text stands for, and it rounds to a finite double
    rintro ⟨k, hk, hlarge⟩
    obtain rfl := hl.unique hk
    exact absurd (hround.isFinite_iff.1 hfinite) (not_lt.2 hlarge)
  | nan =>
    have hnone : Literal.parse? (text .nan).toList = none := by decide
    have hsolid : Text.Solid (text .nan).toList := (Text.solid_iff _).2 (by decide)
    have hother : ¬InfinityWord (text .nan).toList := by unfold InfinityWord; decide
    refine ⟨.nan hsolid.ne_nil hother fun l hl => ?_, hword hnone, hsolid⟩
    rw [Literal.parse?_of_written hl] at hnone
    cases hnone
  | positiveInfinity =>
    have hsolid : Text.Solid (text .positiveInfinity).toList := (Text.solid_iff _).2 (by decide)
    exact ⟨.positiveInfinity (.inl rfl), hword (by decide), hsolid⟩
  | negativeInfinity =>
    have hsolid : Text.Solid (text .negativeInfinity).toList := (Text.solid_iff _).2 (by decide)
    exact ⟨.negativeInfinity rfl, hword (by decide), hsolid⟩

end Number

/-- A number in normal form is read off its text, whatever white space is around it. -/
theorem text_reads_back {n : Number} (hn : n.IsNormal) {before after : String}
    (hbefore : ∀ c ∈ before.toList, Text.isBlank c = true)
    (hafter : ∀ c ∈ after.toList, Text.isBlank c = true) :
    Number.ofText (before ++ n.text ++ after) = n := by
  obtain ⟨hdenotes, hfinite, hsolid⟩ := Number.text_denotes hn
  have htrim : Text.trim (before ++ n.text ++ after).toList = n.text.toList := by
    rw [String.toList_append, String.toList_append]
    exact Text.trim_surrounded hbefore hafter hsolid
  exact Number.ofText_of_denotes htrim hdenotes hfinite

theorem text_of_least_double_reads_back :
    let n : Number := .float ⟨0xC3E0000000000000⟩
    n.IsNormal ∧ Number.ofText (" " ++ n.text ++ "\n") = n := by
  intro n
  have hnormal : n.IsNormal := by
    intro x hx
    obtain rfl := Number.float.inj hx
    decide +kernel
  have hspace : ∀ c ∈ " ".toList, Text.isBlank c = true := List.all_eq_true.1 (by decide)
  have hline : ∀ c ∈ "\n".toList, Text.isBlank c = true := List.all_eq_true.1 (by decide)
  exact ⟨hnormal, text_reads_back hnormal hspace hline⟩

end ScriptRealm
