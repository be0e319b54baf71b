import ScriptRealm.Prototype

/-!
# Members of sequences

Access to lists by position, the methods that change lists, and the methods that look through any
sequence: lists, pairs and iterables.
-/

namespace ScriptRealm.Builtin.Sequence

open Value (argument)

/-- The items of a receiver, as its values view has them. -/
def items (this : Value) : Program (List Value) := do
  Program.list (← Program.ask (.view .values this))

def construct (args : List Value) : Program Value := do
  return .list (← Program.newList args)

def length (this : Value) : Program Value := do
  match this with
  | .list l => return .count (← Program.list l).length
  | _ => return .count (← items this).length

/-- Reports that a method needs a list. -/
def notList (method : String) (this : Value) : Program Value :=
  .fail (.type ("Array.prototype." ++ method ++ " called on a non-list " ++ this.typeWord))

/-- Appends the arguments; the result is the new length. -/
def push (this : Value) (args : List Value) : Program Value := do
  match this with
  | .list l =>
    let items := (← Program.list l) ++ args
    Program.setList l items
    return .count items.length
  | _ => notList "push" this

/-- Removes the last item, which is the result. -/
def pop (this : Value) (_ : List Value) : Program Value := do
  match this with
  | .list l =>
    let items ← Program.list l
    Program.setList l items.dropLast
    return items.getLast?.getD .undefined
  | _ => notList "pop" this

def indexOf (this : Value) (args : List Value) : Program Value := do
  match (← items this).findIdx? (·.eq (argument args 0)) with
  | some i => return .count i
  | none => return .int (-1)

def includes (this : Value) (args : List Value) : Program Value := do
  return .boolean ((← items this).any (·.eq (argument args 0)))

/-- The text of an item in a join: undefined, null and the receiver itself have none. -/
def itemText (this item : Value) : Program String :=
  if item.isNullish || item.eq this then return "" else Program.ask (.displayText item)

/-- The texts of the items, with a separator between neighbours. -/
def join (this : Value) (args : List Value) : Program Value := do
  let separator : String ← match argument args 0 with
    | .undefined => pure ","
    | v => Program.ask (.displayText v)
  return .string (Text.join separator (← (← items this).mapM (itemText this)))

def members : Prototype.Members where
  capability? := some .sequence
  constructor? := some (.staticMethod construct)
  properties := [("length", .property length)]
  functions :=
    [("push", .method push),
     ("pop", .method pop),
     ("indexOf", .method indexOf),
     ("includes", .method includes),
     ("join", .method join)]

end ScriptRealm.Builtin.Sequence
