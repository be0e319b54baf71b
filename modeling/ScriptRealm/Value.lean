import ScriptRealm.Number

/-!
# Values

What a script computes with: scalars, handles on shared collections, and values that belong to the
host.
-/

namespace ScriptRealm

/-- A handle on a list of the store. Equal handles share one list. -/
structure ListRef where
  index : Nat
deriving DecidableEq, Inhabited, Repr

/-- A handle on a map of the store. Equal handles share one map. -/
structure MapRef where
  index : Nat
deriving DecidableEq, Inhabited, Repr

/-- A handle on a sequence of unknown length that the host produces on demand. -/
structure IterableRef where
  index : Nat
deriving DecidableEq, Inhabited, Repr

/-- A handle on any other host object, with the name of its host type. -/
structure ObjectRef where
  index : Nat
  typeName : String
deriving DecidableEq, Inhabited, Repr

/-- A value: script scalars and every host shape that can be classified. -/
inductive Value where
  | undefined
  | null
  | boolean (b : Bool)
  | char (c : Char)
  | string (s : String)
  | number (n : Number)
  | list (l : ListRef)
  | map (m : MapRef)
  | iterable (i : IterableRef)
  | hostClass (name : String)
  | pair (first second : Value)
  | object (o : ObjectRef)
deriving DecidableEq, Inhabited, Repr

namespace Value

/-- An integer as a value. -/
def int (i : Int) : Value :=
  .number (.integer (Int64.ofInt i))

/-- A count as a value. -/
def count (n : Nat) : Value :=
  int n

/-- The word for the kind of a value. -/
def typeWord : Value → String
  | .undefined => "undefined"
  | .null => "null"
  | .boolean _ => "boolean"
  | .char _ => "string"
  | .string _ => "string"
  | .number _ => "number"
  | _ => "object"

def isNullish : Value → Bool
  | .undefined => true
  | .null => true
  | _ => false

/-- A key as a member name: texts and characters have one. -/
def memberName? : Value → Option String
  | .string s => some s
  | .char c => some (String.ofList [c])
  | _ => none

/-- A key as a position: the floor of a number that is not negative. -/
def index? : Value → Option Nat
  | .number n => n.index?
  | _ => none

/-- Equality of values. Scalars are compared by content, numbers by value, pairs by their parts,
and collections and host objects by identity. -/
def eq : Value → Value → Bool
  | .undefined, .undefined => true
  | .null, .null => true
  | .boolean a, .boolean b => a == b
  | .char a, .char b => a == b
  | .string a, .string b => a == b
  | .number a, .number b => a.eq b
  | .list a, .list b => a.index == b.index
  | .map a, .map b => a.index == b.index
  | .iterable a, .iterable b => a.index == b.index
  | .hostClass a, .hostClass b => a == b
  | .pair a b, .pair c d => a.eq c && b.eq d
  | .object a, .object b => a.index == b.index
  | _, _ => false

/-- The argument at a position, undefined where none was given. -/
def argument (args : List Value) (position : Nat) : Value :=
  args[position]?.getD .undefined

end Value

end ScriptRealm
