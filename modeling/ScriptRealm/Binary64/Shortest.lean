import ScriptRealm.Numeral
import ScriptRealm.Binary64

/-!
# The fewest digits that read back

Every finite number other than zero has decimals that round to it. `shortest` takes one with the
fewest digits, and of those the one nearest to the number.
-/

namespace ScriptRealm

/-- The number `coefficient * 10 ^ exponent`. -/
structure Decimal where
  coefficient : Nat
  exponent : Int
deriving DecidableEq, Repr

namespace Decimal

/-- The decimal as a quotient of naturals. -/
def quotient (d : Decimal) : Nat × Nat :=
  if 0 ≤ d.exponent then (d.coefficient * Numeral.tenTo d.exponent.toNat, 1)
  else (d.coefficient, Numeral.tenTo (-d.exponent).toNat)

/-- Moves the trailing zeros of the coefficient into the exponent, `fuel` of them at most. -/
def stripZeros : Nat → Decimal → Decimal
  | 0, d => d
  | fuel + 1, d =>
    if d.coefficient ≠ 0 ∧ d.coefficient % 10 = 0 then
      stripZeros fuel ⟨d.coefficient / 10, d.exponent + 1⟩
    else d

/-- The ordinal of the number that the decimal rounds to. -/
def ordinal (d : Decimal) : Nat :=
  let (num, den) := d.quotient
  Binary64.ordinalOfUnits (num * Binary64.unitsPerOne) den

end Decimal

namespace Binary64

/-- The exponent of the leading decimal digit of a magnitude other than zero, given in units. -/
def leadingExponent (units : Nat) : Int :=
  if unitsPerOne ≤ units then ((Numeral.numeral (units / unitsPerOne)).length : Int) - 1
  else -((Numeral.numeral ((unitsPerOne - 1) / units)).length : Int)

/-- A decimal of the grid `10 ^ exponent` that rounds to the ordinal `target`, whose magnitude is
`units`: one of the magnitude's two neighbours on the grid, the nearer one if both do, and the
upper one if they are equally near. -/
def onGrid? (target units : Nat) (exponent : Int) : Option Decimal :=
  let num := if 0 ≤ exponent then units else units * Numeral.tenTo (-exponent).toNat
  let den := if 0 ≤ exponent then unitsPerOne * Numeral.tenTo exponent.toNat else unitsPerOne
  let below : Decimal := ⟨num / den, exponent⟩
  let above : Decimal := ⟨num / den + 1, exponent⟩
  if below.ordinal = target then
    if above.ordinal = target ∧ den ≤ 2 * (num % den) then some above else some below
  else if above.ordinal = target then some above
  else none

/-- The exact decimal expansion of a magnitude given in units. -/
def exactDecimal (units : Nat) : Decimal :=
  Decimal.stripZeros 1074 ⟨units * Nat.pow 5 1074, -1074⟩

/-- The shortest decimal that rounds to a finite magnitude other than zero, given by its ordinal.
Seventeen digits are tried; the exact expansion stands behind them. -/
def shortest (ordinal : Nat) : Decimal :=
  let units := unitsOfOrdinal ordinal
  let top := leadingExponent units
  match (List.range 17).findSome? fun (n : Nat) => onGrid? ordinal units (top - n) with
  | some d => d.stripZeros 17
  | none => exactDecimal units

end Binary64

end ScriptRealm
