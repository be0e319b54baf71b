import ScriptRealm.Numeral
import ScriptRealm.Binary64

/-!
# Reading decimals

The double-precision number nearest to a decimal, ties going to the even ordinal.
-/

namespace ScriptRealm.Binary64

/-- The number nearest to `digits * 10 ^ exponent`, for a run of decimal digits.

The first two tests keep the powers of ten small: a decimal of at least `10 ^ 309` rounds to
infinity, and one below `10 ^ -324` to zero. -/
def ofDecimal (negative : Bool) (digits : List Char) (exponent : Int) : Binary64 :=
  let significant := digits.dropWhile (· == '0')
  let top : Int := significant.length + exponent
  if significant.isEmpty then zero negative
  else if 310 ≤ top then infinity negative
  else if top ≤ -324 then zero negative
  else if 0 ≤ exponent then
    nearest negative (Numeral.value significant * Numeral.tenTo exponent.toNat) 1
  else nearest negative (Numeral.value significant) (Numeral.tenTo (-exponent).toNat)

end ScriptRealm.Binary64
