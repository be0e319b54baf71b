import ScriptRealm.Error
import ScriptRealm.Text.Quoted
import ScriptRealm.Value

/-!
# Reflection

What a realm tells about itself to those who ask: which prototypes it has, where they stand, and
what they hold. Questions and answers are plain data, without the callbacks that stand behind the
members.
-/

namespace ScriptRealm

/-! ## Ways to point at a prototype -/

/-- The prototypes that every realm has, by the values that they serve. -/
inductive Role where
  | object
  | array
  | string
  | number
  | boolean
  | hostClass
  | hostObject
deriving DecidableEq, Repr

/-- The role that a word stands for. -/
def Role.ofWord? : String → Option Role
  | "object" => some .object
  | "array" => some .array
  | "string" => some .string
  | "number" => some .number
  | "boolean" => some .boolean
  | "class" => some .hostClass
  | "host_object" => some .hostObject
  | _ => none

/-- A way to point at a prototype: by its name, by its handle, or by the word for its role. Each of
them may be unknown. -/
inductive ProtoRef where
  | name (name : String)
  | handle (id : ProtoId)
  | role (word : String)
deriving DecidableEq, Repr

/-! ## What is known of a prototype -/

/-- What a prototype stands for. -/
inductive ProtoKind where
  | role (role : Role)
  | custom (name : String)
deriving DecidableEq, Repr

def ProtoKind.describe : ProtoKind → String
  | .role .object => "Object"
  | .role .array => "Array"
  | .role .string => "String"
  | .role .number => "Number"
  | .role .boolean => "Boolean"
  | .role .hostClass => "Class"
  | .role .hostObject => "HostObject"
  | .custom name => "Custom(" ++ Text.quoteString name ++ ")"

/-- What a definition settles for good. -/
structure Prototype.Outline where
  id : ProtoId
  name : String
  kind : ProtoKind
  parent : Option ProtoId
deriving DecidableEq

/-- The tables that members are registered in. -/
inductive NameTable where
  | properties
  | functions
  | staticProperties
  | staticFunctions
deriving DecidableEq

/-- What sort of member a name stands for. A constant is told with its value. -/
inductive MemberSort where
  | property
  | method
  | staticProperty
  | staticValue (v : Value)
  | staticMethod
deriving DecidableEq, Repr

/-! ## Questions -/

/-- A question about a realm. -/
inductive Reflection where
  /-- the handle that a reference points at -/
  | resolve (proto : ProtoRef)
  /-- the prototype that serves a value -/
  | classify (this : Value)
  /-- the number of prototypes -/
  | size
  | outline (proto : ProtoId)
  /-- the handles of a prototype and its ancestors -/
  | chain (proto : ProtoId)
  | constructor? (proto : ProtoId)
  | hasCapability (proto : ProtoId)
  /-- what the coercions of a prototype make of a value -/
  | displayText (proto : ProtoId) (this : Value)
  | numberOf (proto : ProtoId) (this : Value)
  | truthOf (proto : ProtoId) (this : Value)
  /-- the member of a name in a table -/
  | member (proto : ProtoId) (table : NameTable) (name : String)
  | ownKeys (proto : ProtoId)
  /-- the names along a chain -/
  | allKeys (proto : ProtoId)
  /-- the diagnostic text of a prototype, which counts its members -/
  | describe (proto : ProtoId)

/-- The type of the answer. What is asked about a single prototype has no answer if there is none.
-/
def Reflection.Answer : Reflection → Type
  | .resolve _ => Option ProtoId
  | .classify _ => ProtoId
  | .size => Nat
  | .outline _ => Option Prototype.Outline
  | .chain _ => List ProtoId
  | .constructor? _ => Option MemberSort
  | .hasCapability _ => Bool
  | .displayText .. => Option String
  | .numberOf .. => Option Number
  | .truthOf .. => Option Bool
  | .member .. => Option MemberSort
  | .ownKeys _ => List String
  | .allKeys _ => List String
  | .describe _ => Option String

end ScriptRealm
