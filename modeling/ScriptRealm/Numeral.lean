/-!
# Decimal numerals

Natural numbers as runs of decimal digits: `numeral` writes one, `value` reads one.
-/

namespace ScriptRealm.Numeral

/-- The decimal digits of `n`, most significant first; zero is written `0`. -/
def numeral (n : Nat) : List Char :=
  if n < 10 then [n.digitChar] else numeral (n / 10) ++ [(n % 10).digitChar]
termination_by n

/-- The number that one decimal digit stands for. -/
def digitValue (c : Char) : Nat :=
  c.toNat - '0'.toNat

/-- The number that a run of decimal digits stands for; leading zeros are allowed. -/
def value (digits : List Char) : Nat :=
  digits.foldl (fun acc c => 10 * acc + digitValue c) 0

/-- The power of ten with a given exponent. -/
def tenTo (n : Nat) : Nat :=
  Nat.pow 10 n

/-- The numeral of an integer: a minus sign in front of negative numbers only. -/
def signed (i : Int) : List Char :=
  if i < 0 then '-' :: numeral i.natAbs else numeral i.natAbs

theorem numeral_of_lt {n : Nat} (h : n < 10) : numeral n = [n.digitChar] := by
  rw [numeral, if_pos h]

theorem numeral_of_ge {n : Nat} (h : 10 ≤ n) :
    numeral n = numeral (n / 10) ++ [(n % 10).digitChar] := by
  rw [numeral, if_neg (by omega)]

@[simp] theorem value_nil : value [] = 0 := rfl

@[simp] theorem value_concat (digits : List Char) (c : Char) :
    value (digits ++ [c]) = 10 * value digits + digitValue c := by
  simp [value, List.foldl_append]

theorem digitValue_digitChar {d : Nat} (h : d < 10) : digitValue d.digitChar = d := by
  match d, h with
  | 0, _ | 1, _ | 2, _ | 3, _ | 4, _ | 5, _ | 6, _ | 7, _ | 8, _ | 9, _ => rfl

/-- Reading a numeral gives the number back. -/
theorem value_numeral (n : Nat) : value (numeral n) = n := by
  fun_induction numeral n with
  | case1 n h => simpa [value] using digitValue_digitChar h
  | case2 n h ih =>
    rw [value_concat, ih, digitValue_digitChar (Nat.mod_lt _ (by decide))]
    omega

end ScriptRealm.Numeral
