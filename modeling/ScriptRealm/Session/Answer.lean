import ScriptRealm.Config.Reading
import ScriptRealm.Session.Workbench
import ScriptRealm.Value.Tree

/-!
# Answers

What the items of a session report.
-/

namespace ScriptRealm.Session

/-- All that can be told about a value on its own. -/
structure Facts where
  tree : Tree
  typeWord : String
  display : String
  describe : String
  number : Number
  truth : Bool
  index : Option Nat
  memberName : Option String
  nullish : Bool
  selfEqual : Bool

def factsOf (s : Store) (v : Value) : Facts where
  tree := s.unfold v
  typeWord := v.typeWord
  display := s.display v
  describe := s.describe v
  number := s.number v
  truth := v.truth
  index := v.index?
  memberName := v.memberName?
  nullish := v.isNullish
  selfEqual := v.eq v

/-- What a member is like: whether it is static, and whether it can be called. -/
structure MemberTraits where
  static : Bool
  callable : Bool

def traitsOf (a : Accessor) : MemberTraits :=
  ⟨a.isStatic, a.isCallable⟩

inductive Answer where
  | ok
  | handle (id : Option ProtoId)
  | has (b : Bool)
  | names (names : List String)
  | wellKnown (w : WellKnown)
  | keys (keys : List String)
  | prototype (p : Prototype)
  /-- the members of one name in the four tables, the constructor, and whether there is a
  capability -/
  | members (property function staticProperty staticFunction constructor? : Option MemberTraits)
      (capability : Bool)
  | scalars (text : String) (number : Number) (truth : Bool)
  | found (v : Tree)
  | missing
  | accepted (b : Bool)
  | items (items : List Tree)
  | classified (id : ProtoId) (name : String)
  | realm (size : Nat) (w : WellKnown)
  | config (c : Config)
  | value (v : Tree)
  | equality (forth back : Bool)
  | facts (f : Facts)
  /-- the lengths of the display text and the diagnostic text, and the generic coercions -/
  | brief (displayChars describeChars : Nat) (number : Number) (truth : Bool)
  | size (n : Nat)
  | same (b : Bool)
  | failed (e : ScriptError)
  /-- a name that no prototype has -/
  | noSuchPrototype
  /-- a handle that the registry or realm does not know, where one is needed -/
  | unknownHandle
  | badConfig
  /-- the step does not fit the values it is given -/
  | unfit
  /-- queries were nested too deep -/
  | exhausted

/-- The members of one name of a prototype. -/
def membersAnswer (p : Prototype) (name : String) : Answer :=
  .members ((p.properties.find? name).map traitsOf) ((p.functions.find? name).map traitsOf)
    ((p.staticProperties.find? name).map traitsOf) ((p.staticFunctions.find? name).map traitsOf)
    (p.constructor?.map traitsOf) p.capability?.isSome

/-- The coercions of a prototype, applied to a value. -/
def scalarsAnswer (p : Prototype) (s : Store) (this : Value) : Answer :=
  .scalars (p.asString s this) (p.asNumber s this) (p.asBoolean s this)

end ScriptRealm.Session
