import ScriptRealm.Toml.Scalar
import ScriptRealm.Toml.Table

/-!
# Configuration texts

Lines with keys and values, and headers that say which table the following lines fill.
-/

namespace ScriptRealm.Toml

/-! ## Keys -/

def isBareKeyChar (c : Char) : Bool :=
  c.isAlpha || c.isDigit || c == '_' || c == '-'

/-- One name of a key, bare or quoted, with the blanks around it. -/
def keyPart : Scan String := do
  skipBlanks
  let name ← match ← Scan.peek with
    | some '"' => keyString
    | some '\'' => keyString
    | _ => do
      let name ← Scan.takeWhile isBareKeyChar
      if name.isEmpty then failure else pure name
  skipBlanks
  return String.ofList name

/-- The greatest number of levels to which values may be nested, and of names in a key. -/
def maxDepth : Nat := 79

/-- A key: the names before the last dot, and the last name. -/
def key : Scan (List String × String) := do
  let first ← keyPart
  let rest ← Scan.many do
    if ← Scan.accept ['.'] then return some (← keyPart) else return none
  let names := first :: rest
  if names.length ≤ maxDepth then return (names.dropLast, names.getLast?.getD first) else failure

/-! ## Values -/

/-- A number, or a date or time. -/
def numberOrTime : Scan Value := do
  if (← Scan.optional dateTime).isSome then return .dateTime
  if (← Scan.optional time).isSome then return .dateTime
  if (← Scan.optional decimalFloat).isSome then return .float
  if (← Scan.optional specialFloat).isSome then return .float
  return .integer (← integer)

/-- The rest of an array, after its opening bracket. A comma may follow the last item. -/
def arrayItems (item : Scan Value) : Scan (List Value) := do
  skipLines
  if ← Scan.accept [']'] then return []
  let first ← item
  skipLines
  let rest ← Scan.many do
    if ← Scan.accept [']'] then return none
    Scan.expect ','
    skipLines
    if ← Scan.accept [']'] then return none
    let v ← item
    skipLines
    return some v
  return first :: rest

/-- One key with its value inside an inline table. -/
def inlinePair (item : Scan Value) : Scan ((List String × String) × Value) := do
  let k ← key
  Scan.expect '='
  skipBlanks
  let v ← item
  skipBlanks
  return (k, v)

/-- The rest of an inline table, after its opening brace. It stands on one line, and no comma
follows the last entry. -/
def inlineEntries (item : Scan Value) : Scan (List (String × Value)) := do
  skipBlanks
  if ← Scan.accept ['}'] then return []
  let first ← inlinePair item
  let rest ← Scan.many do
    if ← Scan.accept ['}'] then return none
    Scan.expect ','
    return some (← inlinePair item)
  let bindPair (entries : Entries) (p : (List String × String) × Value) : Option Entries :=
    Entries.bindDotted p.1.2 p.2 p.1.1 entries
  match (first :: rest).foldlM bindPair [] with
  | some entries => return entriesToValues entries
  | none => failure

/-- A value without parts of its own. -/
def simpleValue : Scan Value := do
  match ← Scan.peek with
  | some '"' => return .string (String.ofList (← string))
  | some '\'' => return .string (String.ofList (← string))
  | some 't' => Scan.expectAll ['t', 'r', 'u', 'e']; return .boolean true
  | some 'f' => Scan.expectAll ['f', 'a', 'l', 's', 'e']; return .boolean false
  | some 'i' => specialFloat; return .float
  | some 'n' => specialFloat; return .float
  | _ => numberOrTime

/-- A value with a limited number of levels of arrays and inline tables. -/
def value : Nat → Scan Value
  | 0 => simpleValue
  | depth + 1 => do
    if ← Scan.accept ['['] then return .array (← arrayItems (value depth))
    else if ← Scan.accept ['\x7b'] then return .table (← inlineEntries (value depth))
    else simpleValue

/-! ## Lines -/

/-- The tables so far, and the path of the one that is being filled. -/
structure Builder where
  entries : Entries := []
  path : List String := []

/-- Lifts a change of the tables that may be refused. -/
def accepted {α : Type} (result : Option α) : Scan α :=
  match result with
  | some a => pure a
  | none => failure

/-- A header in single or double brackets, which opens a table. -/
def header (b : Builder) : Scan Builder := do
  let element ← Scan.accept ['[', '[']
  if ¬ element then Scan.expect '['
  let (path, name) ← key
  Scan.expectAll (if element then [']', ']'] else [']'])
  endLine
  let change := if element then Entries.openElement name else Entries.openTable name
  return { entries := ← accepted (b.entries.modifyAt change path), path := path ++ [name] }

/-- A line with a key and its value. -/
def pair (b : Builder) : Scan Builder := do
  let (path, name) ← key
  Scan.expect '='
  skipBlanks
  let v ← value maxDepth
  endLine
  let change := Entries.bindDotted name v path
  return { b with entries := ← accepted (b.entries.modifyAt change b.path) }

/-- The lines of a text, each of which takes a character. -/
def lines : Nat → Builder → Scan Builder
  | 0, _ => failure
  | fuel + 1, b => do
    skipBlanks
    match ← Scan.peek with
    | none => return b
    | some '#' => endLine; lines fuel b
    | some '\n' => endLine; lines fuel b
    | some '\r' => endLine; lines fuel b
    | some '[' => lines fuel (← header b)
    | some _ => lines fuel (← pair b)

/-- The root table of a configuration text, which may begin with a byte order mark. -/
def parse? (text : String) : Option (List (String × Value)) := do
  let s := text.toList
  let s := if s.head? = some '\uFEFF' then s.drop 1 else s
  let (b, _) ← (lines (s.length + 1) {}).run s
  return entriesToValues b.entries

end ScriptRealm.Toml
