import ScriptRealm.Numeral

/-!
# Errors

What can go wrong in a script or while a realm is set up, and the message for each cause.
-/

namespace ScriptRealm

/-- The host shapes that a conversion can aim at. -/
inductive HostType where
  | boolean
  | integer
  | float
  | text
  | char
  | list
  | map
deriving DecidableEq, Repr

/-- The name of a type in messages. -/
def HostType.name : HostType → String
  | .boolean => "Boolean"
  | .integer => "Integer"
  | .float => "Float"
  | .text => "Text"
  | .char => "Char"
  | .list => "List"
  | .map => "Map"

/-- A value that has no form on the other side of the boundary; `value` is its diagnostic text. -/
inductive ConversionError where
  | noHostRepresentation (value : String) (target : HostType)
  | noScriptRepresentation (value : String)
deriving DecidableEq, Repr

/-- The cause as it stands in messages. -/
def ConversionError.message : ConversionError → String
  | .noHostRepresentation value target =>
    value ++ " has no host representation as " ++ target.name
  | .noScriptRepresentation value => value ++ " has no script representation"

/-! ## Handles -/

/-- A number as a word: its lowest 32 bits. -/
instance coeWord : Coe Nat UInt32 := ⟨UInt32.ofNat⟩

/-- The handle of a prototype, a word of 32 bits. -/
structure ProtoId where
  bits : UInt32
deriving DecidableEq, Inhabited, Repr

namespace ProtoId

/-- How many handles there are, which is 2 ^ 32. -/
def count : Nat := UInt32.size

/-- The position that a handle points at. -/
def index (p : ProtoId) : Nat :=
  p.bits.toNat

/-- The handle that is given out for a position. Behind the last handle they begin again with the
first. -/
def ofPosition (position : Nat) : ProtoId :=
  ⟨position⟩

/-- The diagnostic text of a handle. -/
def describe (p : ProtoId) : String :=
  "ProtoId(" ++ String.ofList (Numeral.numeral p.index) ++ ")"

@[simp] theorem index_mk (bits : UInt32) : (ProtoId.mk bits).index = bits.toNat := rfl

theorem index_ofPosition (position : Nat) : (ofPosition position).index = position % count :=
  UInt32.toNat_ofNat

/-- As long as the handles last, each points at the position that it was given out for. -/
theorem index_ofPosition_of_lt {position : Nat} (h : position < count) :
    (ofPosition position).index = position := by
  rw [index_ofPosition, Nat.mod_eq_of_lt h]

/-- Handles are the same if they point at the same position, and each is given out for its own. -/
@[simp] theorem ofPosition_index (p : ProtoId) : ofPosition p.index = p :=
  congrArg mk UInt32.ofNat_toNat

@[ext] theorem ext_index {p q : ProtoId} (h : p.index = q.index) : p = q := by
  rw [← p.ofPosition_index, h, q.ofPosition_index]

theorem eq_ofPosition_iff {p : ProtoId} {position : Nat} (h : position < count) :
    p = ofPosition position ↔ p.index = position := by
  rw [ProtoId.ext_index_iff, index_ofPosition_of_lt h]

end ProtoId

/-! ## Misuse and script errors -/

/-- A step of the setup that the object model refuses. -/
inductive Misuse where
  | nameTaken (name : String)
  | unknownParent (parent : ProtoId) (name : String)
  | constructorSet (name : String)
  | capabilitySet (name : String)
  | other (text : String)
deriving DecidableEq, Repr

def Misuse.message : Misuse → String
  | .nameTaken name => "prototype " ++ name ++ " is already defined"
  | .unknownParent parent name =>
    "parent " ++ parent.describe ++ " of prototype " ++ name ++ " does not exist"
  | .constructorSet name => "prototype " ++ name ++ " already has a constructor"
  | .capabilitySet name => "prototype " ++ name ++ " already has a capability override"
  | .other text => text

/-- An error that ends an operation. -/
inductive ScriptError where
  | reference (text : String)
  | type (text : String)
  | range (text : String)
  | conversion (cause : ConversionError)
  | misuse (cause : Misuse)
deriving DecidableEq, Repr

def ScriptError.message : ScriptError → String
  | .reference text => "Uncaught reference error: " ++ text ++ "."
  | .type text => "Uncaught type error: " ++ text ++ "."
  | .range text => "Uncaught range error: " ++ text ++ "."
  | .conversion cause => "Uncaught conversion error: " ++ cause.message ++ "."
  | .misuse cause => "Object model misuse: " ++ cause.message

end ScriptRealm
