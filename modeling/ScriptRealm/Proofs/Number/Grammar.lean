import ScriptRealm.Number.Literal

/-!
# The grammar of literals

A decimal literal as a relation between its text and its parts: an optional sign, digits with an
optional point, and an optional exponent. The reader accepts exactly the literals, and gives the
parts they are made of. The reader of integers accepts exactly the signed runs of digits whose value
has 64 bits.
-/

namespace ScriptRealm.Literal

/-! ## The relation -/

/-- A run of decimal digits, at least one of them. -/
structure Digits (s : List Char) : Prop where
  ne_nil : s ≠ []
  all : ∀ c ∈ s, c.isDigit = true

/-- An optional sign. -/
inductive Sign : List Char → Bool → Prop where
  | none : Sign [] false
  | plus : Sign ['+'] false
  | minus : Sign ['-'] true

/-- Digits before a point and digits after it. The point needs a digit on one side, and may be left
out where none follow it. -/
inductive Mantissa : List Char → List Char → List Char → Prop where
  | integral {whole : List Char} (h : Digits whole) : Mantissa whole whole []
  | point {whole fraction : List Char} (h : Digits whole) (hf : ∀ c ∈ fraction, c.isDigit = true) :
      Mantissa (whole ++ '.' :: fraction) whole fraction
  | fraction {fraction : List Char} (h : Digits fraction) :
      Mantissa ('.' :: fraction) [] fraction

/-- The integer that a run of digits with a sign stands for. -/
def signedValue (negative : Bool) (digits : List Char) : Int :=
  if negative then -(Numeral.value digits : Int) else Numeral.value digits

/-- An optional exponent: a mark and a signed run of digits. -/
inductive Exponent : List Char → Int → Prop where
  | none : Exponent [] 0
  | marked {mark : Char} {sign digits : List Char} {negative : Bool}
      (hmark : mark = 'e' ∨ mark = 'E') (hsign : Sign sign negative) (hdigits : Digits digits) :
      Exponent (mark :: (sign ++ digits)) (signedValue negative digits)

/-- The text of a literal with given parts. -/
def Written (s : List Char) (l : Literal) : Prop :=
  ∃ sign mantissa exponent, s = sign ++ (mantissa ++ exponent) ∧ Sign sign l.negative ∧
    Mantissa mantissa l.whole l.fraction ∧ Exponent exponent l.exponent

/-- The text of an integer: an optional sign and a run of digits. -/
def WrittenInteger (s : List Char) (i : Int) : Prop :=
  ∃ sign digits negative, s = sign ++ digits ∧ Sign sign negative ∧ Digits digits ∧
    i = signedValue negative digits

/-! ## Signs -/

/-- A text that does not begin with a sign. -/
def Unsigned (s : List Char) : Prop :=
  ∀ c r, s = c :: r → c ≠ '+' ∧ c ≠ '-'

/-- Neither digits nor a mantissa begin like a sign. -/
theorem Digits.unsigned {digits : List Char} (h : Digits digits) (r : List Char) :
    Unsigned (digits ++ r) := by
  cases digits with
  | nil => exact absurd rfl h.ne_nil
  | cons d ds =>
    intro c t heq
    obtain ⟨rfl, -⟩ := List.cons.inj heq
    have hdigit : d.isDigit = true := h.all d (by simp)
    constructor <;> rintro rfl <;> cases hdigit

theorem Mantissa.unsigned {mantissa whole fraction : List Char}
    (h : Mantissa mantissa whole fraction) (r : List Char) : Unsigned (mantissa ++ r) := by
  cases h with
  | integral h => exact h.unsigned r
  | point h =>
    rw [List.append_assoc]
    exact h.unsigned _
  | fraction =>
    intro c t heq
    obtain ⟨rfl, -⟩ := List.cons.inj heq
    decide

/-- The two parts of a mantissa are digits throughout. -/
theorem Mantissa.digits {mantissa whole fraction : List Char}
    (h : Mantissa mantissa whole fraction) : ∀ c ∈ whole ++ fraction, c.isDigit = true := by
  cases h with
  | integral h => simpa using h.all
  | point h hf => exact fun c hc => (List.mem_append.1 hc).elim (h.all c) (hf c)
  | fraction h => exact h.all

/-- Cutting off a sign finds it, and finds none where there is none. -/
theorem splitSign_append {sign : List Char} {negative : Bool} (h : Sign sign negative)
    {r : List Char} (hr : Unsigned r) : splitSign (sign ++ r) = (negative, r) := by
  cases h with
  | plus => rfl
  | minus => rfl
  | none =>
    cases r with
    | nil => rfl
    | cons c t =>
      obtain ⟨hplus, hminus⟩ := hr c t rfl
      rw [List.nil_append, splitSign]
      · rintro r' heq
        exact hminus (List.cons.inj heq).1
      · rintro r' heq
        exact hplus (List.cons.inj heq).1

/-- Whatever is cut off as a sign is one. -/
theorem exists_sign (s : List Char) :
    ∃ sign negative r, splitSign s = (negative, r) ∧ Sign sign negative ∧ s = sign ++ r := by
  unfold splitSign
  split
  · exact ⟨['-'], true, _, rfl, .minus, rfl⟩
  · exact ⟨['+'], false, _, rfl, .plus, rfl⟩
  · exact ⟨[], false, _, rfl, .none, rfl⟩

/-! ## Digits -/

/-- A text that does not begin with a digit. -/
def StopsDigits (s : List Char) : Prop :=
  ∀ c r, s = c :: r → c.isDigit = false

/-- Cutting off digits takes all up to the first other character. -/
theorem splitDigits_append {digits r : List Char} (h : ∀ c ∈ digits, c.isDigit = true)
    (hr : StopsDigits r) : splitDigits (digits ++ r) = (digits, r) := by
  have hrest : r.takeWhile Char.isDigit = [] ∧ r.dropWhile Char.isDigit = r := by
    cases r with
    | nil => exact ⟨rfl, rfl⟩
    | cons c t =>
      have hstop := hr c t rfl
      exact ⟨List.takeWhile_cons_of_neg (by simp [hstop]),
        List.dropWhile_cons_of_neg (by simp [hstop])⟩
  rw [splitDigits, List.takeWhile_append_of_pos h, List.dropWhile_append_of_pos h, hrest.1, hrest.2,
    List.append_nil]

theorem splitDigits_spec (s : List Char) :
    s = (splitDigits s).1 ++ (splitDigits s).2 ∧ ∀ c ∈ (splitDigits s).1, c.isDigit = true :=
  ⟨List.takeWhile_append_dropWhile.symm, List.all_eq_true.1 List.all_takeWhile⟩

theorem digits_iff (s : List Char) : Digits s ↔ s ≠ [] ∧ s.all Char.isDigit = true := by
  rw [List.all_eq_true]
  exact ⟨fun h => ⟨h.ne_nil, h.all⟩, fun h => ⟨h.1, h.2⟩⟩

theorem digits_zero : Digits ['0'] := (digits_iff _).2 (by decide)

/-! ## Exponents -/

/-- What follows the mantissa begins neither with a digit nor with a point. -/
theorem Exponent.stops {text : List Char} {exponent : Int} (h : Exponent text exponent) :
    StopsDigits text ∧ ∀ r, text ≠ '.' :: r := by
  cases h with
  | none => exact ⟨by simp [StopsDigits], by simp⟩
  | marked hmark =>
    constructor
    · intro c r heq
      obtain ⟨rfl, -⟩ := List.cons.inj heq
      rcases hmark with rfl | rfl <;> rfl
    · intro r heq
      obtain ⟨rfl, -⟩ := List.cons.inj heq
      rcases hmark with h | h <;> cases h

/-- The reader of exponents accepts the exponents of the grammar, each with its value. -/
theorem exponent?_eq_some_iff (text : List Char) (exponent : Int) :
    exponent? text = some exponent ↔ Exponent text exponent := by
  constructor
  · intro h
    cases text with
    | nil =>
      obtain rfl : 0 = exponent := Option.some.inj h
      exact .none
    | cons c r =>
      obtain ⟨sign, negative, digits, hsplit, hsign, rfl⟩ := exists_sign r
      simp only [exponent?, hsplit] at h
      split at h
      · rename_i hmark
        split at h
        · rename_i hdigits
          have hwritten := Exponent.marked hmark hsign ((digits_iff digits).2 hdigits)
          exact Option.some.inj h ▸ hwritten
        · cases h
      · cases h
  · intro h
    cases h with
    | none => rfl
    | @marked mark sign digits negative hmark hsign hdigits =>
      have hunsigned : Unsigned digits := by simpa using hdigits.unsigned []
      simp only [exponent?]
      rw [if_pos hmark, splitSign_append hsign hunsigned, if_pos ((digits_iff digits).1 hdigits)]
      rfl

/-! ## Literals -/

theorem splitFraction_point (r : List Char) : splitFraction ('.' :: r) = splitDigits r := rfl

theorem splitFraction_of_ne {s : List Char} (h : ∀ r, s ≠ '.' :: r) :
    splitFraction s = ([], s) := by
  unfold splitFraction
  split
  · rename_i r
    exact absurd rfl (h r)
  · rfl

/-- What the reader accepts is written by the grammar. -/
theorem written_of_parse? {s : List Char} {l : Literal} (h : parse? s = some l) : Written s l := by
  obtain ⟨sign, negative, unsigned, hsplit, hsign, hs⟩ := exists_sign s
  obtain ⟨hwhole, hwholeDigits⟩ := splitDigits_spec unsigned
  simp only [parse?, hsplit] at h
  generalize splitDigits unsigned = first at *
  obtain ⟨whole, rest⟩ := first
  simp only at *
  -- the reader goes on with a fraction exactly if a point follows the first digits
  by_cases hpoint : ∃ r, rest = '.' :: r
  · obtain ⟨r, rfl⟩ := hpoint
    obtain ⟨hfraction, hfractionDigits⟩ := splitDigits_spec r
    rw [splitFraction_point] at h
    generalize splitDigits r = second at *
    obtain ⟨fraction, tail⟩ := second
    simp only at *
    split at h
    · cases h
    · rename_i hdigits
      obtain ⟨exponent, hexponent, rfl⟩ := Option.map_eq_some_iff.1 h
      refine ⟨sign, whole ++ '.' :: fraction, tail, ?_, hsign, ?_,
        (exponent?_eq_some_iff _ _).1 hexponent⟩
      · rw [hs, hwhole, hfraction]
        simp
      · -- digits stand on one side of the point at least, since the test for none failed
        by_cases hempty : whole = []
        · subst hempty
          exact .fraction ⟨fun hnil => hdigits ⟨rfl, hnil⟩, hfractionDigits⟩
        · exact .point ⟨hempty, hwholeDigits⟩ hfractionDigits
  · rw [splitFraction_of_ne fun r hr => hpoint ⟨r, hr⟩] at h
    simp only [and_true] at h
    split at h
    · cases h
    · rename_i hdigits
      obtain ⟨exponent, hexponent, rfl⟩ := Option.map_eq_some_iff.1 h
      refine ⟨sign, whole, rest, ?_, hsign, .integral ⟨hdigits, hwholeDigits⟩,
        (exponent?_eq_some_iff _ _).1 hexponent⟩
      rw [hs, hwhole]

/-- The whole of an unsigned literal, split into its digits and its exponent. -/
theorem split_mantissa {mantissa whole fraction tail : List Char}
    (hmantissa : Mantissa mantissa whole fraction) (hdigits : StopsDigits tail)
    (hpoint : ∀ r, tail ≠ '.' :: r) :
    (splitDigits (mantissa ++ tail)).1 = whole ∧
      splitFraction (splitDigits (mantissa ++ tail)).2 = (fraction, tail) ∧
      ¬(whole = [] ∧ fraction = []) := by
  have hdot : ∀ r, StopsDigits ('.' :: r) := by
    intro r c t heq
    obtain ⟨rfl, -⟩ := List.cons.inj heq
    rfl
  cases hmantissa with
  | integral h =>
    rw [splitDigits_append h.all hdigits]
    exact ⟨rfl, splitFraction_of_ne hpoint, fun hempty => h.ne_nil hempty.1⟩
  | point h hf =>
    rw [List.append_assoc, List.cons_append, splitDigits_append h.all (hdot _)]
    refine ⟨rfl, ?_, fun hempty => h.ne_nil hempty.1⟩
    rw [splitFraction_point, splitDigits_append hf hdigits]
  | fraction h =>
    have hnone : ∀ c ∈ ([] : List Char), c.isDigit = true := by simp
    rw [List.cons_append, ← List.nil_append ('.' :: _), splitDigits_append hnone (hdot _)]
    refine ⟨rfl, ?_, fun hempty => h.ne_nil hempty.2⟩
    rw [splitFraction_point, splitDigits_append h.all hdigits]

/-- What is written by the grammar is accepted, with the literal that it stands for. -/
theorem parse?_of_written {s : List Char} {l : Literal} (h : Written s l) : parse? s = some l := by
  obtain ⟨sign, mantissa, exponent, rfl, hsign, hmantissa, hexponent⟩ := h
  obtain ⟨hdigits, hpoint⟩ := hexponent.stops
  obtain ⟨hwhole, hfraction, hsome⟩ := split_mantissa hmantissa hdigits hpoint
  unfold parse?
  rw [splitSign_append hsign (hmantissa.unsigned exponent)]
  simp only [hwhole, hfraction, if_neg hsome, (exponent?_eq_some_iff _ _).2 hexponent]
  rfl

theorem Written.unique {s : List Char} {l k : Literal} (hl : Written s l) (hk : Written s k) :
    l = k :=
  Option.some.inj ((parse?_of_written hl).symm.trans (parse?_of_written hk))

/-! ## Integers -/

/-- The test of the range guards the conversion to 64 bits. -/
theorem ofInt_in_range_iff (v : Int) (i : Int64) :
    (if Int64.minValue.toInt ≤ v ∧ v ≤ Int64.maxValue.toInt then some (Int64.ofInt v) else none) =
      some i ↔ i.toInt = v := by
  constructor
  · intro h
    split at h
    · rename_i hrange
      rw [← Option.some.inj h]
      exact Int64.toInt_ofInt_of_le hrange.1 (Int.lt_add_one_of_le hrange.2)
    · cases h
  · rintro rfl
    have hlow : Int64.minValue.toInt ≤ i.toInt := i.minValue_le_toInt
    have hhigh : i.toInt ≤ Int64.maxValue.toInt := i.toInt_le
    rw [if_pos ⟨hlow, hhigh⟩, Int64.ofInt_toInt]

/-- The reader of integers accepts exactly the signed runs of digits whose value has 64 bits. -/
theorem integer?_eq_some_iff (s : List Char) (i : Int64) :
    integer? s = some i ↔ WrittenInteger s i.toInt := by
  have hread : ∀ {negative digits}, splitSign s = (negative, digits) →
      integer? s = if digits ≠ [] ∧ digits.all Char.isDigit = true then
        (if Int64.minValue.toInt ≤ signedValue negative digits ∧
            signedValue negative digits ≤ Int64.maxValue.toInt then
          some (Int64.ofInt (signedValue negative digits)) else none) else none := by
    intro negative digits hsplit
    unfold integer?
    rw [hsplit]
    rfl
  constructor
  · intro h
    obtain ⟨sign, negative, digits, hsplit, hsign, hs⟩ := exists_sign s
    rw [hread hsplit] at h
    split at h
    · rename_i hdigits
      exact ⟨sign, digits, negative, hs, hsign, (digits_iff digits).2 hdigits,
        (ofInt_in_range_iff _ i).1 h⟩
    · cases h
  · rintro ⟨sign, digits, negative, rfl, hsign, hdigits, hi⟩
    rw [hread (splitSign_append hsign (by simpa using hdigits.unsigned [])),
      if_pos ((digits_iff digits).1 hdigits)]
    exact (ofInt_in_range_iff _ i).2 hi

/-- An integer is a literal without a fraction and an exponent. -/
theorem WrittenInteger.written {s : List Char} {i : Int} (h : WrittenInteger s i) :
    ∃ l : Literal, Written s l ∧ l.fraction = [] ∧ l.exponent = 0 ∧
      i = signedValue l.negative l.whole := by
  obtain ⟨sign, digits, negative, rfl, hsign, hdigits, rfl⟩ := h
  refine ⟨⟨negative, digits, [], 0⟩, ⟨sign, digits, [], ?_, hsign, .integral hdigits, .none⟩, rfl,
    rfl, rfl⟩
  rw [List.append_nil]

end ScriptRealm.Literal
