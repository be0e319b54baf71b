import ScriptRealm.Binary64.Layout

/-!
# Numbers

A script number is an integer of 64 bits, a double-precision number, or one of the three special
values. `ofBinary64` gives each double-precision number its normal form.
-/

namespace ScriptRealm

/-- A script number. A `float` need not be normal: it may hold an integral value, an infinity or
a NaN. -/
inductive Number where
  | integer (i : Int64)
  | float (x : Binary64)
  | nan
  | positiveInfinity
  | negativeInfinity
deriving DecidableEq, Inhabited, Repr

namespace Number

/-- The normal form of a double-precision number: the special values have their own forms, and an
integral value of magnitude below `2 ^ 63` is an integer. -/
def ofBinary64 (x : Binary64) : Number :=
  if x.isNaN then .nan
  else if x.isInfinite then (if x.negative then .negativeInfinity else .positiveInfinity)
  else match x.integral? with
    | some i => if i.natAbs < Binary64.signWeight then .integer (Int64.ofInt i) else .float x
    | none => .float x

/-- The double-precision number nearest to a number. -/
def toBinary64 : Number → Binary64
  | .integer i => Binary64.ofInt i.toInt
  | .float x => x
  | .nan => Binary64.nan
  | .positiveInfinity => Binary64.infinity false
  | .negativeInfinity => Binary64.infinity true

/-- Equality of script numbers: integers are compared exactly, all else by its double-precision
value. -/
def eq : Number → Number → Bool
  | .integer a, .integer b => a == b
  | .nan, _ => false
  | _, .nan => false
  | .positiveInfinity, .positiveInfinity => true
  | .negativeInfinity, .negativeInfinity => true
  | a, b => a.toBinary64.eq b.toBinary64

/-- Truth of a number: zero and NaN are false. A float is tested by its value alone, and so a NaN
held by a float is true. -/
def truth : Number → Bool
  | .integer i => i != 0
  | .float x => x.isNaN || x.units != 0
  | .nan => false
  | .positiveInfinity => true
  | .negativeInfinity => true

/-- Whether a number is an integer, in either form. -/
def isInteger : Number → Bool
  | .integer _ => true
  | .float x => x.integral?.isSome
  | _ => false

/-- A number as a position: its floor, if it is not negative. The greatest position is
`2 ^ 64 - 1`; the value `2 ^ 64` itself stands for it too. -/
def index? : Number → Option Nat
  | .integer i => if 0 ≤ i.toInt then some i.toInt.toNat else none
  | .float x =>
    if x.isFinite && 0 ≤ x.floor && x.floor.toNat ≤ UInt64.size then
      some (min x.floor.toNat (UInt64.size - 1))
    else none
  | _ => none

/-- The text of a number as scripts see it. -/
def text : Number → String
  | .integer i => String.ofList (Numeral.signed i.toInt)
  | .float x => String.ofList (x.text .plain)
  | .nan => "NaN"
  | .positiveInfinity => "Infinity"
  | .negativeInfinity => "-Infinity"

/-- The text of a number with its form. -/
def describe : Number → String
  | .integer i => "Integer(" ++ String.ofList (Numeral.signed i.toInt) ++ ")"
  | .float x => "Float(" ++ String.ofList (x.text .explicit) ++ ")"
  | .nan => "NaN"
  | .positiveInfinity => "PositiveInfinity"
  | .negativeInfinity => "NegativeInfinity"

/-- The text of a number with a fixed count of places. The special values keep their names. -/
def fixedText (places : Nat) : Number → String
  | .integer i => String.ofList ((Binary64.ofInt i.toInt).fixedText places)
  | .float x => String.ofList (x.fixedText places)
  | n => n.text

end Number

end ScriptRealm
