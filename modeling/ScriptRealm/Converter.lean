import ScriptRealm.Program
import ScriptRealm.Value.Coercion
import ScriptRealm.Value.Render

/-!
# Converters

Values on their way between scripts and the host.
-/

namespace ScriptRealm

/-- A rule for carrying values across the boundary, which an embedder may replace. -/
structure Converter where
  toScript : Value → Program Value
  toHost : Value → Option HostType → Program Value

namespace Converter

/-- The number that a scalar can be converted to, if it is one. -/
def numeric? (v : Value) : Option Number :=
  let n := match v with
    | .number n => n
    | .string s => .ofText s
    | .char c => .ofText (String.ofList [c])
    | _ => .nan
  if n = .nan then none else some n

/-- Reports that a value has no host form of a type. -/
def refuse (v : Value) (target : HostType) : Program Value := do
  let s ← Program.getStore
  .fail (.conversion (.noHostRepresentation (s.describe v) target))

/-- Characters widen to texts; all else is seen by scripts as it is. -/
def widen : Value → Value
  | .char c => .string (String.ofList [c])
  | v => v

/-- The host form of a value for a wanted type. -/
def convert (v : Value) : HostType → Program Value
  | .boolean => return .boolean v.truth
  | .text => return .string ((← Program.getStore).display v)
  | .integer =>
    match numeric? v with
    | some (.integer i) => return .number (.integer i)
    | _ => refuse v .integer
  | .float =>
    match numeric? v with
    | some n => return .number n
    | none => refuse v .float
  | .char =>
    match v with
    | .char c => return .char c
    | .string s =>
      match s.toList with
      | [c] => return .char c
      | _ => refuse v .char
    | _ => refuse v .char
  | .list =>
    match v with
    | .list l => return .list l
    | .pair a b => return .list (← Program.newList [a, b])
    | .iterable i => return .list (← Program.newList (← Program.ask (.drain i)))
    | _ => refuse v .list
  | .map =>
    match v with
    | .map m => return .map m
    | _ => refuse v .map

/-- The converter that holds where the embedder supplies none. -/
def standard : Converter where
  toScript v := pure (widen v)
  toHost v
    | none => pure v
    | some target => convert v target

end Converter

end ScriptRealm
