/-!
# Binary64

Double-precision numbers as 64-bit words, read exactly. A finite word denotes an integer
multiple of `2 ^ -1074`, so that every comparison, floor and rounding below is arithmetic on
`Nat` and `Int`. The magnitude bits of a word (its *ordinal*) grow with the value they denote;
`ordinalOfUnits` goes back from a quotient to the ordinal nearest to it.
-/

namespace ScriptRealm

/-- A double-precision number, given by its word. -/
structure Binary64 where
  bits : UInt64
deriving DecidableEq, Inhabited, Repr

namespace Binary64

/-- The weight of the sign bit, `2 ^ 63`. -/
def signWeight : Nat := 0x8000000000000000

/-- The number of fractions that share an exponent, `2 ^ 52`. -/
def fractionCount : Nat := 0x10000000000000

/-- The number of units (multiples of the least positive number) in 1. -/
def unitsPerOne : Nat := 1 <<< 1074

/-- The ordinal of the infinities; every greater ordinal belongs to a NaN. -/
def infinityOrdinal : Nat := 2047 * fractionCount

/-! ## Parts of a word -/

/-- The word without its sign bit. -/
def ordinal (x : Binary64) : Nat :=
  x.bits.toNat % signWeight

/-- The sign bit. -/
def negative (x : Binary64) : Bool :=
  signWeight ≤ x.bits.toNat

def isNaN (x : Binary64) : Bool :=
  infinityOrdinal < x.ordinal

def isInfinite (x : Binary64) : Bool :=
  x.ordinal = infinityOrdinal

def isFinite (x : Binary64) : Bool :=
  x.ordinal < infinityOrdinal

/-- The word with a given sign and ordinal. -/
def ofOrdinal (negative : Bool) (ordinal : Nat) : Binary64 :=
  ⟨UInt64.ofNat (if negative then ordinal + signWeight else ordinal)⟩

/-- The NaN that arithmetic produces. -/
def nan : Binary64 := ofOrdinal false (infinityOrdinal + fractionCount / 2)

/-- The infinity of a given sign. -/
def infinity (negative : Bool) : Binary64 := ofOrdinal negative infinityOrdinal

/-- The zero of a given sign. -/
def zero (negative : Bool) : Binary64 := ofOrdinal negative 0

/-! ## The number that a word denotes -/

/-- The magnitude that an ordinal denotes, in units. Ordinals below `2 ^ 52` are spaced one unit
apart; each later run of `2 ^ 52` ordinals doubles the spacing. -/
def unitsOfOrdinal (n : Nat) : Nat :=
  if n < fractionCount then n
  else (fractionCount + n % fractionCount) <<< (n / fractionCount - 1)

/-- The magnitude of a number, in units. The infinities count as the power of two that follows
the greatest finite number, so that they compare as they should. -/
def magnitude (x : Binary64) : Nat :=
  unitsOfOrdinal x.ordinal

/-- The signed value of a number, in units. -/
def units (x : Binary64) : Int :=
  if x.negative then -(x.magnitude : Int) else x.magnitude

/-- Numeric equality: both zeros are one number, and a NaN equals nothing. -/
def eq (x y : Binary64) : Bool :=
  !x.isNaN && !y.isNaN && x.units == y.units

/-- The greatest integer that is not above a finite number. -/
def floor (x : Binary64) : Int :=
  x.units / unitsPerOne

/-- A finite number without a fraction, as an integer. -/
def integral? (x : Binary64) : Option Int :=
  if x.isFinite && x.magnitude % unitsPerOne == 0 then some x.floor else none

/-! ## Rounding to the nearest number -/

/-- The integer nearest to `num / den`; of two equally near ones the even one. -/
def roundDiv (num den : Nat) : Nat :=
  let quotient := num / den
  let twice := 2 * (num % den)
  if twice < den then quotient
  else if den < twice then quotient + 1
  else quotient + quotient % 2

/-- The ordinal nearest to the magnitude `num / den` units, ties going to the even ordinal.
Magnitudes from half a step below the infinities upward give the ordinal of the infinities. -/
def ordinalOfUnits (num den : Nat) : Nat :=
  let coarseness := (num / den).log2 - 52
  min (coarseness * fractionCount + roundDiv num (den <<< coarseness)) infinityOrdinal

/-- The number nearest to a signed quotient. -/
def nearest (negative : Bool) (num den : Nat) : Binary64 :=
  ofOrdinal negative (ordinalOfUnits (num * unitsPerOne) den)

/-- The number nearest to an integer; zero is positive. -/
def ofInt (i : Int) : Binary64 :=
  nearest (i < 0) i.natAbs 1

end Binary64

end ScriptRealm
