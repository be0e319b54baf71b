import ScriptRealm.Registry

/-!
# Realms

The prototypes of a registry after the setup: they change no more, and operations walk their chains.
-/

namespace ScriptRealm

structure Realm where
  prototypes : Array Prototype
  wellKnown : WellKnown

/-- Ends the setup. -/
def Registry.freeze (r : Registry) : Realm :=
  ⟨r.prototypes, r.wellKnown⟩

namespace Realm

/-- The prototype of a handle. -/
def get? (r : Realm) (id : ProtoId) : Option Prototype :=
  r.prototypes[id.index]?

/-- The first prototype of a name. -/
def find? (r : Realm) (name : String) : Option ProtoId :=
  (r.prototypes.find? (·.name == name)).map (·.id)

/-- The handle that a reference points at. -/
def resolve? (r : Realm) : ProtoRef → Option ProtoId
  | .name name => r.find? name
  | .handle id => some id
  | .role word => (Role.ofWord? word).map r.wellKnown.of

def size (r : Realm) : Nat :=
  r.prototypes.size

/-- The prototypes from a handle up along the parents, `fuel` of them at most. -/
def chainUpTo (r : Realm) : Nat → ProtoId → List Prototype
  | 0, _ => []
  | fuel + 1, id =>
    match r.get? id with
    | none => []
    | some p => p :: (p.parent.map (r.chainUpTo fuel)).getD []

/-- A prototype and its ancestors, child first; nothing for a handle that the realm does not know.
A chain has no more levels than the realm has prototypes. -/
def chain (r : Realm) (id : ProtoId) : List Prototype :=
  r.chainUpTo r.size id

/-- The names of the properties and functions of one prototype. -/
def ownKeys (r : Realm) (id : ProtoId) : List String :=
  ((r.get? id).map (·.ownKeys)).getD []

/-- The names of the properties and functions along a chain. -/
def allKeys (r : Realm) (id : ProtoId) : List String :=
  KeySet.ofList ((r.chain id).flatMap (·.ownKeys))

/-- The name of a prototype, for messages. -/
def nameOf (r : Realm) (id : ProtoId) : String :=
  ((r.get? id).map (·.name)).getD "<unknown>"

/-- The prototype that serves values of a shape. -/
def roleOf : Value → Role
  | .char _ => .string
  | .string _ => .string
  | .number _ => .number
  | .boolean _ => .boolean
  | .hostClass _ => .hostClass
  | .map _ => .object
  | .list _ => .array
  | .iterable _ => .array
  | .pair _ _ => .array
  | .undefined => .hostObject
  | .null => .hostObject
  | .object _ => .hostObject

end Realm

end ScriptRealm
