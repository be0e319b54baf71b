import ScriptRealm.Binary64.Shortest

/-!
# Number text

How double-precision numbers are written: the shortest digits that read back, laid out with or
without an exponent, and a fixed number of places.
-/

namespace ScriptRealm.Binary64

/-- What a style decides about the layout of the shortest digits. -/
structure Style where
  /-- whether a number whose leading digit stands for `10 ^ e` is written without an exponent -/
  positional : Int → Bool
  /-- whether a positional number without a fraction ends in `.0` -/
  pointZero : Bool

/-- Plain style never uses an exponent, and writes integral numbers without a point. -/
def Style.plain : Style := ⟨fun _ => true, false⟩

/-- Explicit style always shows that the number is not an integer, and uses an exponent from
`10 ^ 16` upward and below `10 ^ -4`. -/
def Style.explicit : Style := ⟨fun e => -4 ≤ e && e < 16, true⟩

/-- Digits with the decimal point after the first `point` of them, filled up with zeros. -/
def positionalText (pointZero : Bool) (digits : List Char) (point : Int) : List Char :=
  if point ≤ 0 then '0' :: '.' :: (List.replicate (-point).toNat '0' ++ digits)
  else if (digits.length : Int) ≤ point then
    digits ++ List.replicate (point.toNat - digits.length) '0' ++
      (if pointZero then ['.', '0'] else [])
  else digits.take point.toNat ++ '.' :: digits.drop point.toNat

/-- Digits with the decimal point after the first one, and an exponent. -/
def exponentText (digits : List Char) (exponent : Int) : List Char :=
  digits.take 1 ++ (if digits.length ≤ 1 then [] else '.' :: digits.drop 1) ++
    'e' :: Numeral.signed exponent

/-- The text of the magnitude with a given ordinal. -/
def magnitudeText (style : Style) (ordinal : Nat) : List Char :=
  if ordinal = 0 then '0' :: (if style.pointZero then ['.', '0'] else [])
  else
    let d := shortest ordinal
    let digits := Numeral.numeral d.coefficient
    let leading : Int := digits.length + d.exponent - 1
    if style.positional leading then positionalText style.pointZero digits (leading + 1)
    else exponentText digits leading

/-- Puts the sign of a number in front of the text of its magnitude. -/
def withSign (x : Binary64) (magnitude : List Char) : List Char :=
  if x.negative then '-' :: magnitude else magnitude

/-- The text of a number; both zeros show their sign, a NaN has none. -/
def text (style : Style) (x : Binary64) : List Char :=
  if x.isNaN then ['N', 'a', 'N']
  else if x.isInfinite then x.withSign ['i', 'n', 'f']
  else x.withSign (magnitudeText style x.ordinal)

/-- A count of units of `10 ^ -places`, written with that many places. -/
def placesText (places count : Nat) : List Char :=
  let digits := Numeral.numeral count
  let padded := List.replicate (places + 1 - digits.length) '0' ++ digits
  let cut := padded.length - places
  padded.take cut ++ (if places = 0 then [] else '.' :: padded.drop cut)

/-- The text of a number with a fixed number of places: the exact value is rounded to the nearest
multiple of `10 ^ -places`, and of two equally near ones to the even one. -/
def fixedText (places : Nat) (x : Binary64) : List Char :=
  if x.isFinite then
    x.withSign (placesText places (roundDiv (x.magnitude * Numeral.tenTo places) unitsPerOne))
  else text .plain x

end ScriptRealm.Binary64
