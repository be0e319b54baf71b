import ScriptRealm.Accessor
import ScriptRealm.KeySet
import ScriptRealm.Value.Coercion
import ScriptRealm.Value.Render
import ScriptRealm.View

/-!
# Prototypes

A prototype holds the members, coercions and views of the values that it serves. It is made with a
parent, whose coercions it takes over as they then are, and filled by edits.
-/

namespace ScriptRealm

/-- A rule for turning values into scalars. It may look into the store. -/
abbrev Coercion (α : Type) := Store → Value → α

structure Prototype where
  id : ProtoId
  kind : ProtoKind
  name : String
  parent : Option ProtoId
  properties : Assoc Accessor := ∅
  functions : Assoc Accessor := ∅
  staticProperties : Assoc Accessor := ∅
  staticFunctions : Assoc Accessor := ∅
  constructor? : Option Accessor := none
  capability? : Option Capability := none
  asString : Coercion String := Store.display
  asNumber : Coercion Number := Store.number
  asBoolean : Coercion Bool := fun _ v => v.truth
  keyList : ViewSupplier := View.defaultKeys
  valueList : ViewSupplier := View.defaultValues
  entryList : ViewSupplier := View.defaultEntries
  /-- the own keys, once they have been asked for; registering a member forgets them -/
  keyCache : Option (List String) := none

namespace Prototype

/-- What the definition of a prototype has settled. -/
def outline (p : Prototype) : Outline :=
  ⟨p.id, p.name, p.kind, p.parent⟩

/-- A new prototype. It starts with the coercions that its parent has at this moment, and with the
default views. -/
def make (id : ProtoId) (name : String) (kind : ProtoKind) : Option Prototype → Prototype
  | none => { id, name, kind, parent := none }
  | some p =>
    { id, name, kind, parent := some p.id
      asString := p.asString, asNumber := p.asNumber, asBoolean := p.asBoolean }

/-! ## Edits -/

/-- One change to a prototype. -/
inductive Edit where
  | property (name : String) (a : Accessor)
  | function (name : String) (a : Accessor)
  | staticProperty (name : String) (a : Accessor)
  | staticFunction (name : String) (a : Accessor)
  /-- the constructor can be set once -/
  | setConstructor (a : Accessor)
  /-- the capability can be set once -/
  | setCapability (c : Capability)
  | setAsString (f : Coercion String)
  | setAsNumber (f : Coercion Number)
  | setAsBoolean (f : Coercion Bool)
  | setView (view : View) (supplier : ViewSupplier)

/-- A prototype after a change. -/
def edit (p : Prototype) : Edit → Except Misuse Prototype
  | .property name a =>
    .ok { p with properties := p.properties.insert name a, keyCache := none }
  | .function name a =>
    .ok { p with functions := p.functions.insert name a, keyCache := none }
  | .staticProperty name a => .ok { p with staticProperties := p.staticProperties.insert name a }
  | .staticFunction name a => .ok { p with staticFunctions := p.staticFunctions.insert name a }
  | .setConstructor a =>
    match p.constructor? with
    | some _ => .error (.constructorSet p.name)
    | none => .ok { p with constructor? := some a }
  | .setCapability c =>
    match p.capability? with
    | some _ => .error (.capabilitySet p.name)
    | none => .ok { p with capability? := some c }
  | .setAsString f => .ok { p with asString := f }
  | .setAsNumber f => .ok { p with asNumber := f }
  | .setAsBoolean f => .ok { p with asBoolean := f }
  | .setView .keys supplier => .ok { p with keyList := supplier }
  | .setView .values supplier => .ok { p with valueList := supplier }
  | .setView .entries supplier => .ok { p with entryList := supplier }

/-- A set of members that a prototype is given all at once. -/
structure Members where
  capability? : Option Capability := none
  constructor? : Option Accessor := none
  properties : List (String × Accessor) := []
  functions : List (String × Accessor) := []
  staticProperties : List (String × Accessor) := []
  staticFunctions : List (String × Accessor) := []

/-- Gives a new prototype its members. -/
def install (p : Prototype) (m : Members) : Prototype :=
  { p with
    capability? := m.capability?
    constructor? := m.constructor?
    properties := .ofList m.properties
    functions := .ofList m.functions
    staticProperties := .ofList m.staticProperties
    staticFunctions := .ofList m.staticFunctions
    keyCache := none }

/-! ## Own keys -/

/-- The names of the properties and functions, read off the tables. -/
def tableKeys (p : Prototype) : List String :=
  KeySet.ofList (p.properties.keys ++ p.functions.keys)

/-- The names of the properties and functions. -/
def ownKeys (p : Prototype) : List String :=
  p.keyCache.getD p.tableKeys

/-- A prototype that remembers its own keys. -/
def cacheKeys (p : Prototype) : Prototype :=
  { p with keyCache := some p.ownKeys }

/-! ## Look-up -/

/-- The members of a table. -/
def table (p : Prototype) : NameTable → Assoc Accessor
  | .properties => p.properties
  | .functions => p.functions
  | .staticProperties => p.staticProperties
  | .staticFunctions => p.staticFunctions

/-- The supplier of a view. -/
def supplier (p : Prototype) : View → ViewSupplier
  | .keys => p.keyList
  | .values => p.valueList
  | .entries => p.entryList

/-- The members of a name that can answer reads: the property, then the static property. -/
def readable (p : Prototype) (name : String) : List Accessor :=
  (p.properties.find? name).toList ++ (p.staticProperties.find? name).toList

/-- The members of a name that can answer calls: the function, then the static function. -/
def invocable (p : Prototype) (name : String) : List Accessor :=
  (p.functions.find? name).toList ++ (p.staticFunctions.find? name).toList

/-- The diagnostic text of a prototype. -/
def describe (p : Prototype) : String :=
  let count (n : Nat) : String := String.ofList (Numeral.numeral n)
  let parent : String := match p.parent with
    | none => "None"
    | some q => "Some(" ++ q.describe ++ ")"
  "Prototype \x7b id: " ++ p.id.describe ++ ", name: " ++ Text.quoteString p.name ++
    ", kind: " ++ p.kind.describe ++ ", parent: " ++ parent ++
    ", properties: " ++ count p.properties.size ++ ", functions: " ++ count p.functions.size ++
    " \x7d"

end Prototype

end ScriptRealm
