import ScriptRealm.Capability

/-!
# Accessors

Single members: what a name in a prototype's tables stands for.
-/

namespace ScriptRealm

/-- A member. Properties and methods get the receiver, the static ones do not. -/
inductive Accessor where
  | property (get : Value → Program Value)
  | method (call : Value → List Value → Program Value)
  | staticProperty (get : Program Value)
  | staticValue (v : Value)
  | staticMethod (call : List Value → Program Value)

namespace Accessor

def isStatic : Accessor → Bool
  | .property _ => false
  | .method _ => false
  | _ => true

/-- What sort of member it is. -/
def sort : Accessor → MemberSort
  | .property _ => .property
  | .method _ => .method
  | .staticProperty _ => .staticProperty
  | .staticValue v => .staticValue v
  | .staticMethod _ => .staticMethod

/-- Methods can be called, and all else can be read. -/
def isCallable : Accessor → Bool
  | .method _ => true
  | .staticMethod _ => true
  | _ => false

/-- Converts the result of a member, which is thereby found. -/
def foundBy (cast : Cast) (result : Program Value) : Program Lookup := do
  return .found (← cast.apply (← result))

/-- Reads a member; methods miss. -/
def read (a : Accessor) (this : Value) (cast : Cast) : Program Lookup :=
  match a with
  | .property get => foundBy cast (get this)
  | .staticProperty get => foundBy cast get
  | .staticValue v => foundBy cast (pure v)
  | .method _ => pure .missing
  | .staticMethod _ => pure .missing

/-- Calls a member; all but methods miss. -/
def invoke (a : Accessor) (this : Value) (args : List Value) (cast : Cast) : Program Lookup :=
  match a with
  | .method call => foundBy cast (call this args)
  | .staticMethod call => foundBy cast (call args)
  | .property _ => pure .missing
  | .staticProperty _ => pure .missing
  | .staticValue _ => pure .missing

/-- An accessor answers to every key, and accepts no writes. -/
def capability (a : Accessor) : Capability where
  read this _ cast := a.read this cast
  invoke this _ args cast := a.invoke this args cast

end Accessor

end ScriptRealm
