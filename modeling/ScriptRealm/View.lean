import ScriptRealm.Program

/-!
# Views

The keys, values and entries of a receiver as lists. Each prototype has a supplier for each view;
the ones below go by the shape of the receiver.
-/

namespace ScriptRealm

/-- The prototype that a supplier serves. -/
structure Owner where
  id : ProtoId
  name : String

/-- Makes one view of a receiver. The list may be fresh, or shared with the receiver. -/
abbrev ViewSupplier := Owner → Value → Program ListRef

namespace View

/-- The positions below a count, as values. -/
def positions (n : Nat) : List Value :=
  (List.range n).map fun i => .count i

/-- The names of a map, the positions of a sequence, and no keys for any other value. -/
def defaultKeys : ViewSupplier := fun _ this => do
  match this with
  | .map m => Program.newList ((← Program.map m).keys.map .string)
  | .list l => Program.newList (positions (← Program.list l).length)
  | .pair _ _ => Program.newList (positions 2)
  | .iterable i =>
    let items : List Value ← Program.ask (.drain i)
    Program.newList (positions items.length)
  | _ => Program.newList []

/-- The list itself, the values of a map, the items of any other sequence, and nothing for any
other value. -/
def defaultValues : ViewSupplier := fun _ this => do
  match this with
  | .list l => return l
  | .map m => Program.newList (← Program.map m).values
  | .pair a b => Program.newList [a, b]
  | .iterable i => Program.newList (← Program.ask (.drain i))
  | _ => Program.newList []

/-- Pairs the owner's keys with its values; if they differ in number there are no entries. -/
def defaultEntries : ViewSupplier := fun owner this => do
  let keys ← Program.ask (.viewThrough (.handle owner.id) .keys this)
  let values ← Program.ask (.viewThrough (.handle owner.id) .values this)
  let keys ← Program.list keys
  let values ← Program.list values
  if keys.length = values.length then Program.newList (List.zipWith .pair keys values)
  else Program.newList []

end View

end ScriptRealm
