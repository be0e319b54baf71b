import ScriptRealm.Number.Literal
import ScriptRealm.Toml.Scan

/-!
# Scalars of configuration texts

Strings in their four spellings, numbers, dates and times.
-/

namespace ScriptRealm.Toml

/-! ## Strings -/

def isHexDigit (c : Char) : Bool :=
  c.isDigit || ('a' ≤ c && c ≤ 'f') || ('A' ≤ c && c ≤ 'F')

def hexDigitValue (c : Char) : Nat :=
  if c.isDigit then c.toNat - '0'.toNat
  else if 'a' ≤ c then c.toNat - 'a'.toNat + 10
  else c.toNat - 'A'.toNat + 10

/-- The number that digits of a base stand for. -/
def baseValue (base : Nat) (digits : List Char) : Nat :=
  digits.foldl (fun acc c => base * acc + hexDigitValue c) 0

/-- A character by the hexadecimal digits of its code point. -/
def codePoint (digits : Nat) : Scan Char := do
  let n := baseValue 16 (← Scan.exactly digits isHexDigit)
  if n < 0xD800 ∨ (0xDFFF < n ∧ n < 0x110000) then return Char.ofNat n else failure

/-- What follows a backslash in a basic string. -/
def escape : Scan Char := do
  match ← Scan.next with
  | 'b' => return '\x08'
  | 't' => return '\t'
  | 'n' => return '\n'
  | 'f' => return '\x0c'
  | 'r' => return '\r'
  | '"' => return '"'
  | '\\' => return '\\'
  | 'u' => codePoint 4
  | 'U' => codePoint 8
  | _ => failure

/-- The rest of a string on one line, after its opening quote. -/
def lineString (quote : Char) (escapes : Bool) : Scan (List Char) :=
  Scan.many do
    let c ← Scan.next
    if c = quote then return none
    else if c = '\\' ∧ escapes then return some (← escape)
    else if isPlain c then return some c
    else failure

/-- Skips a line end after a backslash with all white space after it; fails if there is none. -/
def skipFolded : Scan Unit := do
  skipBlanks
  if ← acceptLineEnd then
    let _ ← Scan.many do
      skipBlanks
      if ← acceptLineEnd then return some () else return none
  else failure

/-- One piece of a string over several lines, or its end. Up to two quotes may stand right before
the closing three. -/
def blockPiece (quote : Char) (escapes : Bool) : Scan (Option (List Char)) := do
  if ← acceptLineEnd then return some ['\n']
  let c ← Scan.next
  if c = quote then return some [c]
  else if c = '\\' ∧ escapes then
    match ← Scan.optional skipFolded with
    | some () => return some []
    | none => return some [← escape]
  else if isPlain c then return some [c]
  else failure

/-- The rest of a string over several lines, after its three opening quotes. -/
def blockString (quote : Char) (escapes : Bool) : Scan (List Char) := do
  let _ ← acceptLineEnd
  let three := [quote, quote, quote]
  let pieces ← Scan.many do
    if three.isPrefixOf (← get) then return none else blockPiece quote escapes
  Scan.expectAll three
  let extra ← Scan.many do
    if ← Scan.accept [quote] then return some quote else return none
  if extra.length ≤ 2 then return pieces.flatten ++ extra else failure

/-- A string that may stand as a key. -/
def keyString : Scan (List Char) := do
  match ← Scan.next with
  | '"' => lineString '"' true
  | '\'' => lineString '\'' false
  | _ => failure

/-- A string in any spelling. -/
def string : Scan (List Char) := do
  if ← Scan.accept ['"', '"', '"'] then blockString '"' true
  else if ← Scan.accept ['\'', '\'', '\''] then blockString '\'' false
  else keyString

/-! ## Numbers -/

/-- Digits of a class, with single underscores between them. The underscores are dropped. -/
def groupedDigits (p : Char → Bool) : Scan (List Char) := do
  let first ← Scan.next
  if ¬ p first then failure
  let rest ← Scan.many do
    match ← get with
    | '_' :: c :: r => if p c then set r; return some c else failure
    | ['_'] => failure
    | c :: r => if p c then set r; return some c else return none
    | [] => return none
  return first :: rest

/-- An optional sign; the flag tells a minus. -/
def sign : Scan Bool := do
  if ← Scan.accept ['-'] then return true
  let _ ← Scan.accept ['+']
  return false

/-- The digits of a decimal integer: a zero stands alone. -/
def decimalDigits : Scan (List Char) := do
  if (← Scan.peek) = some '0' then
    let _ ← Scan.next
    return ['0']
  else groupedDigits Char.isDigit

/-- An exponent of a float. -/
def floatExponent : Scan Int := do
  let e ← Scan.next
  if e ≠ 'e' ∧ e ≠ 'E' then failure
  let negative ← sign
  let digits ← groupedDigits Char.isDigit
  return if negative then -(Numeral.value digits : Int) else Numeral.value digits

/-- A float with a point or an exponent. It must not overflow to positive infinity. -/
def decimalFloat : Scan Unit := do
  let negative ← sign
  let whole ← decimalDigits
  let fraction ← if ← Scan.accept ['.'] then
      some <$> groupedDigits Char.isDigit
    else pure none
  let exponent ← match ← Scan.peek with
    | some 'e' => some <$> floatExponent
    | some 'E' => some <$> floatExponent
    | _ => pure none
  if fraction.isNone ∧ exponent.isNone then failure
  let l : Literal := ⟨negative, whole, fraction.getD [], exponent.getD 0⟩
  if l.toBinary64 = Binary64.infinity false then failure else return ()

/-- An infinity or a NaN. -/
def specialFloat : Scan Unit := do
  let _ ← sign
  if ← Scan.accept ['i', 'n', 'f'] then return ()
  Scan.expectAll ['n', 'a', 'n']

/-- A nonnegative integer in a given base. -/
def basedInteger (base : Nat) (p : Char → Bool) : Scan Int := do
  let n : Int := baseValue base (← groupedDigits p)
  if n ≤ Int64.maxValue.toInt then return n else failure

/-- An integer of 64 bits. -/
def integer : Scan Int := do
  if ← Scan.accept ['0', 'x'] then basedInteger 16 isHexDigit
  else if ← Scan.accept ['0', 'o'] then basedInteger 8 fun c => '0' ≤ c && c ≤ '7'
  else if ← Scan.accept ['0', 'b'] then basedInteger 2 fun c => c == '0' || c == '1'
  else
    let negative ← sign
    let n := Numeral.value (← decimalDigits)
    let i : Int := if negative then -(n : Int) else n
    if Int64.minValue.toInt ≤ i ∧ i ≤ Int64.maxValue.toInt then return i else failure

/-! ## Dates and times -/

/-- A field of a date or time: a number of given width, between two bounds. -/
def field (width low high : Nat) : Scan Nat := do
  let n := Numeral.value (← Scan.exactly width Char.isDigit)
  if low ≤ n ∧ n ≤ high then return n else failure

/-- The number of days of a month. -/
def daysOf (year month : Nat) : Nat :=
  if month = 2 then
    if year % 4 = 0 ∧ (year % 100 ≠ 0 ∨ year % 400 = 0) then 29 else 28
  else if month = 4 ∨ month = 6 ∨ month = 9 ∨ month = 11 then 30
  else 31

def date : Scan Unit := do
  let year ← field 4 0 9999
  Scan.expect '-'
  let month ← field 2 1 12
  Scan.expect '-'
  let _ ← field 2 1 (daysOf year month)

/-- A time of day; a minute may have a leap second. -/
def time : Scan Unit := do
  let _ ← field 2 0 23
  Scan.expect ':'
  let _ ← field 2 0 59
  Scan.expect ':'
  let _ ← field 2 0 60
  if ← Scan.accept ['.'] then
    let digits ← Scan.takeWhile Char.isDigit
    if digits.isEmpty then failure

/-- The distance of a time from universal time. -/
def zone : Scan Unit := do
  match ← Scan.next with
  | 'Z' => return ()
  | 'z' => return ()
  | c =>
    if c ≠ '+' ∧ c ≠ '-' then failure
    let _ ← field 2 0 23
    Scan.expect ':'
    let _ ← field 2 0 59

/-- A date, perhaps with a time, which may have a zone. -/
def dateTime : Scan Unit := do
  date
  let _ ← Scan.optional do
    let c ← Scan.next
    if c ≠ 'T' ∧ c ≠ 't' ∧ c ≠ ' ' then failure
    time
    let _ ← Scan.optional zone

end ScriptRealm.Toml
