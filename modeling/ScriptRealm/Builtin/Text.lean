import ScriptRealm.Prototype
import ScriptRealm.Text.Case
import ScriptRealm.Text.Search

/-!
# Members of texts

The methods of strings and characters. Positions and lengths count characters.
-/

namespace ScriptRealm.Builtin.Text

open ScriptRealm.Text
open Value (argument)

/-- The characters of a value: those of a string or character itself, else of its display text. -/
def chars : Value → Program (List Char)
  | .string s => pure s.toList
  | .char c => pure [c]
  | v => do return (← (Program.ask (.displayText v) : Program String)).toList

/-- A run of characters as a value. -/
def text (s : List Char) : Value :=
  .string (String.ofList s)

def construct (args : List Value) : Program Value := do
  match args with
  | v :: _ => return .string (← Program.ask (.displayText v))
  | [] => return .string ""

def length (this : Value) : Program Value := do
  return .count (← chars this).length

/-- The character at a position, 0 if none is given; an empty text if there is no such position. -/
def charAt (this : Value) (args : List Value) : Program Value := do
  let position := match argument args 0 with
    | .undefined => some 0
    | v => v.index?
  match position with
  | some i => return text (← chars this)[i]?.toList
  | none => return text []

def toUpperCase (this : Value) (_ : List Value) : Program Value := do
  return text (upper (← chars this))

def toLowerCase (this : Value) (_ : List Value) : Program Value := do
  return text (lower (← chars this))

/-- The position of the first occurrence of a text, or -1. -/
def indexOf (this : Value) (args : List Value) : Program Value := do
  let haystack ← chars this
  match position? (← chars (argument args 0)) haystack with
  | some i => return .count i
  | none => return .int (-1)

/-- The parts between the occurrences of a separator; an empty separator cuts between all
characters, and no separator does not cut. -/
def split (this : Value) (args : List Value) : Program Value := do
  let s ← chars this
  match argument args 0 with
  | .undefined => return .list (← Program.newList [text s])
  | v =>
    let separator ← chars v
    let parts := if separator.isEmpty then s.map ([·]) else ScriptRealm.Text.split separator s
    return .list (← Program.newList (parts.map text))

def members : Prototype.Members where
  constructor? := some (.staticMethod construct)
  properties := [("length", .property length)]
  functions :=
    [("charAt", .method charAt),
     ("toUpperCase", .method toUpperCase),
     ("toLowerCase", .method toLowerCase),
     ("indexOf", .method indexOf),
     ("split", .method split)]

end ScriptRealm.Builtin.Text
