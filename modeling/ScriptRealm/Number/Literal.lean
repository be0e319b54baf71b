import ScriptRealm.Number
import ScriptRealm.Binary64.Reading
import ScriptRealm.Text.Blank

/-!
# Number literals

The numeric reading of a text. A literal is an optional sign, digits with an optional point, and
an optional exponent; a signed run of digits alone is an integer.
-/

namespace ScriptRealm

/-- The parts of a decimal literal. -/
structure Literal where
  negative : Bool
  /-- digits before the point -/
  whole : List Char
  /-- digits after the point -/
  fraction : List Char
  exponent : Int
deriving DecidableEq, Repr

namespace Literal

/-- Splits off an optional sign; the flag tells a minus. -/
def splitSign : List Char → Bool × List Char
  | '-' :: r => (true, r)
  | '+' :: r => (false, r)
  | r => (false, r)

/-- Splits a text after its leading digits. -/
def splitDigits (s : List Char) : List Char × List Char :=
  (s.takeWhile Char.isDigit, s.dropWhile Char.isDigit)

/-- An exponent part, which must be the whole text: nothing, or `e` or `E` with a signed numeral. -/
def exponent? : List Char → Option Int
  | [] => some 0
  | c :: r =>
    if c = 'e' ∨ c = 'E' then
      let (negative, digits) := splitSign r
      if digits ≠ [] ∧ digits.all Char.isDigit then
        some (if negative then -(Numeral.value digits : Int) else Numeral.value digits)
      else none
    else none

/-- Splits off a point with the digits after it. -/
def splitFraction : List Char → List Char × List Char
  | '.' :: r => splitDigits r
  | r => ([], r)

/-- Reads a decimal literal. The point needs a digit on at least one side. -/
def parse? (s : List Char) : Option Literal :=
  let (negative, unsigned) := splitSign s
  let (whole, rest) := splitDigits unsigned
  let (fraction, rest) := splitFraction rest
  if whole = [] ∧ fraction = [] then none
  else (exponent? rest).map (⟨negative, whole, fraction, ·⟩)

/-- The double-precision number nearest to a literal. -/
def toBinary64 (l : Literal) : Binary64 :=
  Binary64.ofDecimal l.negative (l.whole ++ l.fraction) (l.exponent - l.fraction.length)

/-- Reads an optional sign with a run of digits, if its value fits into 64 bits. -/
def integer? (s : List Char) : Option Int64 :=
  let (negative, digits) := splitSign s
  if digits ≠ [] ∧ digits.all Char.isDigit then
    let i : Int := if negative then -(Numeral.value digits : Int) else Numeral.value digits
    if Int64.minValue.toInt ≤ i ∧ i ≤ Int64.maxValue.toInt then some (Int64.ofInt i) else none
  else none

end Literal

/-- The number that a text stands for. White space around it is ignored, an empty text is zero,
and a text that is no literal, or whose value is beyond the finite range, is NaN. -/
def Number.ofText (s : String) : Number :=
  let s := Text.trim s.toList
  if s = [] then .integer 0
  else if s = "Infinity".toList ∨ s = "+Infinity".toList then .positiveInfinity
  else if s = "-Infinity".toList then .negativeInfinity
  else match Literal.integer? s with
    | some i => .integer i
    | none =>
      match Literal.parse? s with
      | some l => if l.toBinary64.isFinite then .ofBinary64 l.toBinary64 else .nan
      | none => .nan

end ScriptRealm
