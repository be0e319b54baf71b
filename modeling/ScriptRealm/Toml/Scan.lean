/-!
# Scanning

Readers that take characters off the front of a text, and fail without a reason.
-/

namespace ScriptRealm.Toml

/-- A reader of a text: its result and what is left, or a failure. -/
abbrev Scan := StateT (List Char) Option

namespace Scan

/-- The next character, which stays. -/
def peek : Scan (Option Char) := do
  return (← get).head?

/-- The next character, which must be there. -/
def next : Scan Char := do
  match ← get with
  | c :: r => set r; return c
  | [] => failure

/-- Takes a given character. -/
def expect (c : Char) : Scan Unit := do
  if (← next) = c then return () else failure

/-- Takes a given run of characters if it comes next. -/
def accept (s : List Char) : Scan Bool := do
  let input ← get
  if s.isPrefixOf input then set (input.drop s.length); return true else return false

/-- Takes a given run of characters. -/
def expectAll (s : List Char) : Scan Unit := do
  if ← accept s then return () else failure

/-- Takes the longest run of characters of a class. -/
def takeWhile (p : Char → Bool) : Scan (List Char) := do
  let input ← get
  set (input.dropWhile p)
  return input.takeWhile p

/-- Takes a given number of characters of a class. -/
def exactly (n : Nat) (p : Char → Bool) : Scan (List Char) := do
  let input ← get
  let s := input.take n
  if s.length = n ∧ s.all p then set (input.drop n); return s else failure

/-- Tries a reader; where it fails nothing is taken. -/
def optional {α : Type} (r : Scan α) : Scan (Option α) := fun input =>
  match r input with
  | some (a, rest) => some (some a, rest)
  | none => some (none, input)

/-- Repeats a step until it has nothing more to give, at most once for each character left. -/
def repeatSteps {α : Type} (step : Scan (Option α)) : Nat → Scan (List α)
  | 0 => failure
  | fuel + 1 => do
    match ← step with
    | some a => return a :: (← repeatSteps step fuel)
    | none => return []

/-- Repeats a step, each of which takes a character, until it has nothing more to give. -/
def many {α : Type} (step : Scan (Option α)) : Scan (List α) := do
  repeatSteps step ((← get).length + 1)

end Scan

/-! ## Blanks, comments and line ends -/

/-- Skips blanks and tabs. -/
def skipBlanks : Scan Unit := do
  let _ ← Scan.takeWhile fun c => c == ' ' || c == '\t'

/-- Takes a line end if one comes next: a line feed, perhaps after a carriage return. -/
def acceptLineEnd : Scan Bool := do
  match ← get with
  | '\n' :: r => set r; return true
  | '\r' :: '\n' :: r => set r; return true
  | _ => return false

/-- The characters of comments and literal strings; control characters other than the tab are
not among them. -/
def isPlain (c : Char) : Bool :=
  c == '\t' || (0x20 ≤ c.toNat && c.toNat != 0x7F)

/-- Takes a comment if one comes next. -/
def acceptComment : Scan Bool := do
  if ← Scan.accept ['#'] then
    let _ ← Scan.takeWhile isPlain
    return true
  else return false

/-- Takes what may stand after the last thing on a line, with the line end. -/
def endLine : Scan Unit := do
  skipBlanks
  let _ ← acceptComment
  if (← get).isEmpty then return ()
  if ← acceptLineEnd then return () else failure

/-- Skips blanks, comments and line ends. -/
def skipLines : Scan Unit := do
  let _ ← Scan.many do
    skipBlanks
    if ← acceptComment then
      if ← acceptLineEnd then return some () else failure
    else if ← acceptLineEnd then return some ()
    else return none

end ScriptRealm.Toml
