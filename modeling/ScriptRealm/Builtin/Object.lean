import ScriptRealm.Prototype

/-!
# Members of every value

The root prototype serves access to maps by name, and the methods that list what a value holds.
-/

namespace ScriptRealm.Builtin.Object

open Value (argument)

/-- The display text of the receiver. -/
def toText (this : Value) (_ : List Value) : Program Value := do
  return .string (← Program.ask (.displayText this))

/-- Whether a key addresses an entry of a map or a position of a list or pair. -/
def holdsKey (s : Store) (this key : Value) : Bool :=
  match this with
  | .map m => key.memberName?.any fun name => (s.map m).contains name
  | .list l => key.index?.any fun i => i < (s.list l).length
  | .pair _ _ => key.index?.any fun i => i < 2
  | _ => false

/-- Whether the receiver holds a key itself. -/
def hasOwnProperty (this : Value) (args : List Value) : Program Value := do
  return .boolean (holdsKey (← Program.getStore) this (argument args 0))

/-- A view of the receiver, as a list value. -/
def viewed (view : View) (this : Value) (_ : List Value) : Program Value := do
  return .list (← Program.ask (.view view this))

def members : Prototype.Members where
  capability? := some .mapping
  functions :=
    [("toString", .method toText),
     ("hasOwnProperty", .method hasOwnProperty),
     ("keys", .method (viewed .keys)),
     ("values", .method (viewed .values)),
     ("entries", .method (viewed .entries))]

end ScriptRealm.Builtin.Object
