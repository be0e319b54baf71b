import ScriptRealm.Builtin
import ScriptRealm.Session.Answer

/-!
# Setting up

The first part of a session: prototypes are defined and filled, and what is there so far is shown.
-/

namespace ScriptRealm.Session

/-- A rule for turning values into texts. -/
inductive TextRule where
  | const (s : String)
  /-- the display text behind a given text -/
  | after (s : String)

def TextRule.coercion : TextRule → Coercion String
  | .const t => fun _ _ => t
  | .after t => fun s v => t ++ s.display v

/-- A rule for turning values into truth values. -/
inductive TruthRule where
  | const (b : Bool)
  /-- the opposite of the generic truth -/
  | negated

def TruthRule.coercion : TruthRule → Coercion Bool
  | .const b => fun _ _ => b
  | .negated => fun _ v => !v.truth

/-- An item of the setup. -/
inductive SetupItem where
  | bindValue (name : String) (v : Value)
  | define (name : String) (kind : ProtoKind) (parent : Option ProtoRef)
  | find (name : String)
  | has (name : String)
  | names
  | wellKnown
  | ownKeys (proto : ProtoRef)
  | show (proto : ProtoRef)
  | members (proto : ProtoRef) (name : String)
  | scalars (proto : ProtoRef) (this : Value)
  | edit (proto : ProtoRef) (e : Prototype.Edit)

structure SetupState where
  workbench : Workbench := {}
  registry : Registry

namespace SetupItem

/-- Does something with the prototype that a reference points at. -/
def onPrototype (st : SetupState) (proto : ProtoRef)
    (act : ProtoId → Prototype → Answer × SetupState) : Answer × SetupState :=
  match st.registry.resolve? proto with
  | none => (.noSuchPrototype, st)
  | some id =>
    match st.registry.get? id with
    | none => (.unknownHandle, st)
    | some p => act id p

/-- Performs an item of the setup. -/
def perform (st : SetupState) : SetupItem → Answer × SetupState
  | .bindValue name v => (.ok, { st with workbench := st.workbench.setVariable name v })
  | .define name kind parent =>
    match parent.map st.registry.resolve? with
    | some none => (.noSuchPrototype, st)
    | parent =>
      match st.registry.define name kind parent.join with
      | .ok (id, registry) => (.handle id, { st with registry })
      | .error cause => (.failed (.misuse cause), st)
  | .find name => (.handle (st.registry.find? name), st)
  | .has name => (.has (st.registry.names.contains name), st)
  | .names => (.names st.registry.prototypeNames, st)
  | .wellKnown => (.wellKnown st.registry.wellKnown, st)
  | .ownKeys proto => onPrototype st proto fun id p =>
    (.keys p.ownKeys, { st with registry := st.registry.set id p.cacheKeys })
  | .show proto => onPrototype st proto fun _ p => (.prototype p, st)
  | .members proto name => onPrototype st proto fun _ p => (membersAnswer p name, st)
  | .scalars proto this => onPrototype st proto fun _ p =>
    (scalarsAnswer p st.workbench.store this, st)
  | .edit proto e => onPrototype st proto fun id _ =>
    match st.registry.edit id e with
    | .ok registry => (.ok, { st with registry })
    | .error (.misuse cause) => (.failed (.misuse cause), st)
    | .error (.unknownHandle _) => (.unknownHandle, st)

end SetupItem

end ScriptRealm.Session
