import ScriptRealm.Program

/-!
# Capabilities

The four operations that prototypes, accessors, built-in adapters and single host objects may
offer. An operation that is left out misses or refuses.
-/

namespace ScriptRealm

structure Capability where
  read (this key : Value) (cast : Cast) : Program Lookup := pure .missing
  write (this key value : Value) (cast : Cast) : Program Bool := pure false
  invoke (this key : Value) (args : List Value) (cast : Cast) : Program Lookup := pure .missing
  delete (this key : Value) : Program Lookup := pure .missing

namespace Capability

/-- Offers nothing. -/
def passive : Capability := {}

/-- What a capability does with a request. -/
def serve (c : Capability) : (q : Request) → Program q.Answer
  | .read this key cast => c.read this key cast
  | .write this key value cast => c.write this key value cast
  | .invoke this key args cast => c.invoke this key args cast
  | .delete this key => c.delete this key

/-! ## Members of lists -/

/-- The item at the position that the key stands for. -/
def readItem (this key : Value) (cast : Cast) : Program Lookup := do
  match this, key.index? with
  | .list l, some i =>
    match (← Program.list l)[i]? with
    | some v => return .found (← cast.apply v)
    | none => return .missing
  | _, _ => return .missing

/-- Replaces an item that is there; a list never grows this way. The position is looked at again
after the conversion, which may have shortened the list. -/
def writeItem (this key value : Value) (cast : Cast) : Program Bool := do
  match this, key.index? with
  | .list l, some i =>
    if i < (← Program.list l).length then
      let v ← cast.apply value
      let items ← Program.list l
      if i < items.length then
        Program.setList l (items.set i v)
        return true
      else return false
    else return false
  | _, _ => return false

/-- Removes an item and closes the gap, then converts the item. -/
def deleteItem (this key : Value) : Program Lookup := do
  match this, key.index? with
  | .list l, some i =>
    let items ← Program.list l
    match items[i]? with
    | some v =>
      Program.setList l (items.eraseIdx i)
      return .found (← Cast.toScript.apply v)
    | none => return .missing
  | _, _ => return .missing

/-- Access to lists by position. -/
def sequence : Capability where
  read := readItem
  write := writeItem
  delete := deleteItem

/-! ## Members of maps -/

/-- The value that a map holds under the key's name. -/
def readEntry (this key : Value) (cast : Cast) : Program Lookup := do
  match this, key.memberName? with
  | .map m, some name =>
    match (← Program.map m).find? name with
    | some v => return .found (← cast.apply v)
    | none => return .missing
  | _, _ => return .missing

/-- Stores a value under the key's name, after its conversion. -/
def writeEntry (this key value : Value) (cast : Cast) : Program Bool := do
  match this, key.memberName? with
  | .map m, some name =>
    let v ← cast.apply value
    Program.setMap m ((← Program.map m).insert name v)
    return true
  | _, _ => return false

/-- Removes the entry of the key's name, then converts its value. -/
def deleteEntry (this key : Value) : Program Lookup := do
  match this, key.memberName? with
  | .map m, some name =>
    let entries ← Program.map m
    match entries.find? name with
    | some v =>
      Program.setMap m (entries.erase name)
      return .found (← Cast.toScript.apply v)
    | none => return .missing
  | _, _ => return .missing

/-- Access to maps by name. -/
def mapping : Capability where
  read := readEntry
  write := writeEntry
  delete := deleteEntry

end Capability

end ScriptRealm
