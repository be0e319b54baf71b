import ScriptRealm.Store.Walk
import ScriptRealm.Text.Quoted
import ScriptRealm.Text.Search

/-!
# Values as text

`display` gives the text that scripts see, `describe` the text for diagnostics. Both walk through
shared collections and stop at those that they are inside of, so that a collection that contains
itself has a text too.
-/

namespace ScriptRealm.Store

/-- Walks through a value for its text. The items of a list are joined by commas, and a list met
again inside itself has no text. -/
def displayWalk (s : Store) : Value → Walk String
  | .undefined => return "undefined"
  | .null => return "null"
  | .boolean b => return if b then "true" else "false"
  | .char c => return String.ofList [c]
  | .string t => return t
  | .number n => return n.text
  | .list l => do
    if ← Walk.isInside (.list l) then return ""
    Walk.enter (.list l)
    let texts ← (s.list l).mapM fun v => s |>.displayWalk v
    Walk.leave
    return Text.join "," texts
  | .map _ => return "[object Object]"
  | .iterable _ => return "[object Iterable]"
  | .hostClass name => return "[class " ++ name ++ "]"
  | .pair a b => do
    let first ← s |>.displayWalk a
    let second ← s |>.displayWalk b
    return first ++ "," ++ second
  | .object o => return "[object " ++ o.typeName ++ "]"
partial_fixpoint

/-- The text of a value as scripts see it. -/
def display (s : Store) (v : Value) : String :=
  (s.displayWalk v).outcome

/-- Walks through a value for its diagnostic text. A collection met again inside itself is cut
short. -/
def describeWalk (s : Store) : Value → Walk String
  | .undefined => return "JsValue::Undefined"
  | .null => return "JsValue::Null"
  | .boolean b => return "JsValue::Boolean(" ++ (if b then "true" else "false") ++ ")"
  | .char c => return "JsValue::Char(" ++ Text.quoteChar c ++ ")"
  | .string t => return "JsValue::String(" ++ Text.quoteString t ++ ")"
  | .number n => return "JsValue::Number(" ++ n.describe ++ ")"
  | .list l => do
    if ← Walk.isInside (.list l) then return "JsValue::List([...])"
    Walk.enter (.list l)
    let texts ← (s.list l).mapM fun v => s |>.describeWalk v
    Walk.leave
    return "JsValue::List([" ++ Text.join ", " texts ++ "])"
  | .map m => do
    if ← Walk.isInside (.map m) then return "JsValue::Map(\x7b...\x7d)"
    Walk.enter (.map m)
    let texts ← (s.map m).entries.mapM fun e => do
      let text ← s |>.describeWalk e.2
      return Text.quoteString e.1 ++ ": " ++ text
    Walk.leave
    return "JsValue::Map(\x7b" ++ Text.join ", " texts ++ "\x7d)"
  | .iterable _ => return "JsValue::Iterable(...)"
  | .hostClass name => return "JsValue::Class(" ++ name ++ ")"
  | .pair a b => do
    let first ← s |>.describeWalk a
    let second ← s |>.describeWalk b
    return "JsValue::Pair(" ++ first ++ ", " ++ second ++ ")"
  | .object o => return "JsValue::Object(" ++ o.typeName ++ ")"
partial_fixpoint

/-- The diagnostic text of a value. -/
def describe (s : Store) (v : Value) : String :=
  (s.describeWalk v).outcome

end ScriptRealm.Store
