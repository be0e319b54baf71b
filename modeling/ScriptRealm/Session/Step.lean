import ScriptRealm.Session.Setup

/-!
# Steps

The second part of a session: operations on values in a context over a realm.
-/

namespace ScriptRealm.Session

/-- Where an operation begins. -/
inductive Target where
  /-- at the prototype that serves the receiver -/
  | classified
  /-- at a given prototype -/
  | through (proto : ProtoRef)
  /-- at a capability, and nowhere else -/
  | capability (c : Capability)

/-- A step of a session. The values that an operation produces are bound to a variable if a name
is given. -/
inductive Step where
  | bindValue (name : String) (v : Value)
  | read (target : Target) (this key : Value) (cast : Cast) (name : Option String)
  | write (target : Target) (this key value : Value) (cast : Cast)
  | invoke (target : Target) (this key : Value) (args : List Value) (cast : Cast)
      (name : Option String)
  | delete (target : Target) (this key : Value) (name : Option String)
  | construct (proto : ProtoRef) (args : List Value) (cast : Cast) (name : Option String)
  | view (target : Target) (view : View) (this : Value) (name : Option String)
  | scalars (target : Target) (this : Value)
  | classify (this : Value)
  | chain (proto : ProtoRef)
  | ownKeys (proto : ProtoRef)
  | allKeys (proto : ProtoRef)
  | show (proto : ProtoRef)
  | members (proto : ProtoRef) (memberName : String)
  | find (protoName : String)
  | realm
  | config
  | context (config : Option String) (converter : Option ConverterKind)
  | cast (v : Value) (cast : Cast) (name : Option String)
  | eq (a b : Value)
  | facts (v : Value)
  | brief (v : Value)
  | size (v : Value)
  | push (list v : Value)
  | same (a b : Value)

structure State where
  workbench : Workbench
  realm : Realm
  converter : Converter
  config : Config

namespace State

def context (st : State) : Context where
  realm := st.realm
  host := st.workbench.host
  converter := st.converter
  config := st.config

/-- How deep queries may be nested in a session. -/
def maxNesting : Nat := 2000

/-- Runs a program, and answers with its result. -/
def run {α : Type} (st : State) (p : Program α) (answer : State → α → Answer × State) :
    Answer × State :=
  let keep (m : Machine) : State := { st with workbench := { st.workbench with machine := m } }
  match st.context.run maxNesting p st.workbench.machine with
  | .returned a m => answer (keep m) a
  | .threw e m => (.failed e, keep m)
  | .exhausted m => (.exhausted, keep m)

/-- Answers with a value as it is after the operation, and binds it. -/
def giveValue (name : Option String) (wrap : Tree → Answer) (st : State) (v : Value) :
    Answer × State :=
  (wrap (st.workbench.store.unfold v), { st with workbench := st.workbench.bind? name v })

/-- Answers with a look-up. -/
def giveLookup (name : Option String) (st : State) : Lookup → Answer × State
  | .found v => st.giveValue name .found v
  | .missing => (.missing, st)

/-- Answers with the items of a list, which encloses them. -/
def giveList (name : Option String) (st : State) (l : ListRef) : Answer × State :=
  let s := st.workbench.store
  (.items ((s.list l).map (s.unfoldAt [.list l])),
    { st with workbench := st.workbench.bind? name (.list l) })

/-- Does something with the handle that a reference points at. -/
def onHandle (st : State) (proto : ProtoRef) (act : ProtoId → Answer × State) : Answer × State :=
  match st.realm.resolve? proto with
  | some id => act id
  | none => (.noSuchPrototype, st)

/-- Does something with the prototype that a reference points at. -/
def onPrototype (st : State) (proto : ProtoRef) (act : Prototype → Answer × State) :
    Answer × State :=
  st.onHandle proto fun id => ((st.realm.get? id).map act).getD (.missing, st)

/-- Runs the form of an operation that a target asks for. -/
def dispatch {α : Type} (st : State) (target : Target) (classified : Context → Program α)
    (through : Context → ProtoId → Program α) (direct : Capability → Program α)
    (answer : State → α → Answer × State) : Answer × State :=
  match target with
  | .classified => st.run (classified st.context) answer
  | .through proto => st.onHandle proto fun id => st.run (through st.context id) answer
  | .capability c => st.run (direct c) answer

end State

namespace Step

/-- The number of members of a list or map. -/
def sizeOf? (s : Store) : Value → Option Nat
  | .list l => some (s.list l).length
  | .map m => some (s.map m).size
  | _ => none

/-- Whether two lists, or two maps, are one. -/
def same? : Value → Value → Option Bool
  | .list a, .list b => some (a == b)
  | .map a, .map b => some (a == b)
  | _, _ => none

/-- Performs a step. -/
def perform (st : State) : Step → Answer × State
  | .bindValue name v => (.ok, { st with workbench := st.workbench.setVariable name v })
  | .read target this key c name =>
    st.dispatch target (·.read this key c) (·.readFrom · this key c) (·.read this key c)
      (State.giveLookup name)
  | .write target this key value c =>
    st.dispatch target (·.write this key value c) (·.writeFrom · this key value c)
      (·.write this key value c) fun st b => (.accepted b, st)
  | .invoke target this key args c name =>
    st.dispatch target (·.invoke this key args c) (·.invokeFrom · this key args c)
      (·.invoke this key args c) (State.giveLookup name)
  | .delete target this key name =>
    st.dispatch target (·.delete this key) (·.deleteFrom · this key) (·.delete this key)
      (State.giveLookup name)
  | .construct proto args c name =>
    st.onHandle proto fun id => st.run (st.context.construct id args c) (State.giveLookup name)
  | .view target kind this name =>
    st.dispatch target (·.view kind this) (·.viewThrough · kind this)
      (fun _ => Program.newList []) (State.giveList name)
  | .scalars target this =>
    let s := st.workbench.store
    let ofPrototype (id : ProtoId) : Answer :=
      ((st.realm.get? id).map fun p => scalarsAnswer p s this).getD .unknownHandle
    match target with
    | .through proto => st.onHandle proto fun id => (ofPrototype id, st)
    | _ => (ofPrototype (st.context.classify this), st)
  | .classify this =>
    let id := st.context.classify this
    (.classified id (st.realm.nameOf id), st)
  | .chain proto => st.onHandle proto fun id => (.names ((st.realm.chain id).map (·.name)), st)
  | .ownKeys proto => st.onHandle proto fun id => (.keys (st.realm.ownKeys id), st)
  | .allKeys proto => st.onHandle proto fun id => (.keys (st.realm.allKeys id), st)
  | .show proto => st.onPrototype proto fun p => (.prototype p, st)
  | .members proto name => st.onPrototype proto fun p => (membersAnswer p name, st)
  | .find name => (.handle (st.realm.find? name), st)
  | .realm => (.realm st.realm.size st.realm.wellKnown, st)
  | .config => (.config st.config, st)
  | .context text kind =>
    let converter := (kind.map (·.converter)).getD .standard
    match (text.map Config.parse).getD (.ok .standard) with
    | .ok chosen => (.ok, { st with config := chosen, converter })
    | .error _ => (.badConfig, st)
  | .cast v c name => st.run (c.apply v) (State.giveValue name .value)
  | .eq a b => (.equality (a.eq b) (b.eq a), st)
  | .facts v => (.facts (factsOf st.workbench.store v), st)
  | .brief v =>
    let s := st.workbench.store
    (.brief (s.display v).length (s.describe v).length (s.number v) v.truth, st)
  | .size v => (((sizeOf? st.workbench.store v).map Answer.size).getD .unfit, st)
  | .push target v =>
    match target with
    | .list l =>
      let s := st.workbench.store
      (.ok, { st with workbench := st.workbench.withStore (s.setList l (s.list l ++ [v])) })
    | _ => (.unfit, st)
  | .same a b => (((same? a b).map Answer.same).getD .unfit, st)

end Step

/-! ## Beginning a session -/

/-- What the setup starts from. -/
inductive Base where
  /-- all built-in members -/
  | core
  /-- the well-known prototypes without members -/
  | bare
  /-- as bare, and the steps run in a context of their own that nothing was chosen for -/
  | standard
deriving DecidableEq

/-- The registry at the beginning of the setup. -/
def Base.registry (base : Base) (config : Config) : Registry :=
  match base with
  | .core => Registry.core config.hostObjectName
  | _ => Registry.bare config.hostObjectName

/-- The state at the end of the setup. -/
def Base.begin (base : Base) (config : Config) (setup : SetupState) (kind : Option ConverterKind) :
    State :=
  match base with
  | .standard =>
    { workbench := setup.workbench
      realm := (Registry.bare Config.standard.hostObjectName).freeze
      converter := .standard
      config := .standard }
  | _ =>
    { workbench := setup.workbench
      realm := setup.registry.freeze
      converter := (kind.map (·.converter)).getD .standard
      config }

end ScriptRealm.Session
