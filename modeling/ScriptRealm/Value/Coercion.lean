import ScriptRealm.Number.Literal
import ScriptRealm.Store.Walk

/-!
# Values as numbers and truth values

The generic coercions, which hold where no prototype sets its own.
-/

namespace ScriptRealm

/-- Walks through a value for its number. A list counts as its only item; an empty list and a list
met again inside itself are zero. -/
def Store.numberWalk (s : Store) : Value → Walk Number
  | .null => return .integer 0
  | .boolean b => return .integer (if b then 1 else 0)
  | .number n => return n
  | .char c => return .ofText (String.ofList [c])
  | .string t => return .ofText t
  | .list l => do
    if ← Walk.isInside (.list l) then return .integer 0
    match s.list l with
    | [] => return .integer 0
    | [v] =>
      Walk.enter (.list l)
      let n ← s |>.numberWalk v
      Walk.leave
      return n
    | _ => return .nan
  | _ => return .nan
partial_fixpoint

/-- The number of a value. -/
def Store.number (s : Store) (v : Value) : Number :=
  (s.numberWalk v).outcome

/-- The truth of a value. -/
def Value.truth : Value → Bool
  | .undefined => false
  | .null => false
  | .boolean b => b
  | .string s => !s.isEmpty
  | .number n => n.truth
  | _ => true

end ScriptRealm
