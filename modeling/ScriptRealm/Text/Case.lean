import ScriptRealm.Text.CaseTable
import ScriptRealm.Text.Cased

/-!
# Upper and lower case

Case conversion of whole texts, without regard to any language.
-/

namespace ScriptRealm.Text

/-- Maps a code point by the run that holds it. Runs ascend. -/
def mapByRuns (n : Nat) : List CaseRun → Nat
  | [] => n
  | (first, last, stride, target) :: r =>
    if n < first then n
    else if n ≤ last ∧ (n - first) % stride = 0 then n - first + target
    else mapByRuns n r

/-- Maps a character by a table of expansions, else by runs. -/
def mapCase (expansions : List (Nat × List Nat)) (runs : List CaseRun) (c : Char) : List Char :=
  match expansions.find? (·.1 == c.toNat) with
  | some (_, mapped) => mapped.map Char.ofNat
  | none => [Char.ofNat (mapByRuns c.toNat runs)]

def upperChar (c : Char) : List Char :=
  if c.toNat < 0x80 then [c.toUpper] else mapCase upperExpansions upperRuns c

def lowerChar (c : Char) : List Char :=
  if c.toNat < 0x80 then [c.toLower] else mapCase lowerExpansions lowerRuns c

/-- Whether the first character that is not ignorable has case. -/
def casedAhead (s : List Char) : Bool :=
  match s.dropWhile isCaseIgnorable with
  | [] => false
  | c :: _ => isCased c

/-- The upper case of a text. -/
def upper (s : List Char) : List Char :=
  s.flatMap upperChar

/-- The lower case of a text whose preceding characters are `before`, nearest first. A capital
sigma that ends a word becomes a final sigma. -/
def lowerAfter (before : List Char) : List Char → List Char
  | [] => []
  | c :: r =>
    (if c = 'Σ' then (if casedAhead before && !casedAhead r then ['ς'] else ['σ'])
      else lowerChar c) ++ lowerAfter (c :: before) r

/-- The lower case of a text. -/
def lower (s : List Char) : List Char :=
  lowerAfter [] s

end ScriptRealm.Text
