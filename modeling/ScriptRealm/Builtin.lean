import ScriptRealm.Builtin.Object
import ScriptRealm.Builtin.Scalar
import ScriptRealm.Builtin.Sequence
import ScriptRealm.Builtin.Text
import ScriptRealm.Registry

/-!
# Built-in members

The members of the well-known prototypes, and the registry that has them.
-/

namespace ScriptRealm

namespace Builtin

/-- The name of a host class. -/
def className (this : Value) : Program Value :=
  match this with
  | .hostClass name => return .string name
  | _ => return .undefined

/-- The name of a host object's type. -/
def objectClass (this : Value) : Program Value :=
  match this with
  | .object o => return .string o.typeName
  | _ => return .undefined

/-- The members of a well-known prototype. -/
def members : Role → Prototype.Members
  | .object => Object.members
  | .array => Sequence.members
  | .string => Text.members
  | .number => Scalar.numberMembers
  | .boolean => Scalar.booleanMembers
  | .hostClass => { properties := [("name", .property className)] }
  | .hostObject => { properties := [("class", .property objectClass)] }

/-- The well-known prototypes in the order of their definition. -/
def roles : List Role :=
  [.object, .array, .string, .number, .boolean, .hostClass, .hostObject]

/-- Gives one well-known prototype its members. -/
def install (r : Registry) (role : Role) : Registry :=
  { r with
    prototypes := r.prototypes.modify (r.wellKnown.of role).index (·.install (members role)) }

end Builtin

/-- A registry of the well-known prototypes with all built-in members. -/
def Registry.core (hostObjectName : String) : Registry :=
  Builtin.roles.foldl Builtin.install (Registry.bare hostObjectName)

end ScriptRealm
