import ScriptRealm.Config
import ScriptRealm.Converter
import ScriptRealm.Realm

/-!
# Contexts

A context joins a realm with the host's objects, a converter and a configuration, and serves the
operations on values. Reading and invoking ask, in this order, the receiver's own members, and then
for each level of the prototype chain, child first, the capability and the name tables. Writing and
deleting never touch the tables. The first that does not miss answers.
-/

namespace ScriptRealm

/-- What the host answers when it is asked about one of its objects. An operation asks for the
prototype once, to classify its receiver. Members that change with the object are still one
capability, which looks at the store whenever it is used. -/
structure HostObject where
  /-- the prototype that the object declares for itself -/
  declared : Option ProtoRef := none
  /-- members that are asked before those of any prototype -/
  members : Option Capability := none

/-- The host's side of the handles on iterables and host objects. -/
structure Host where
  objects : Array HostObject
  /-- what each iterable yields, every time it is drained -/
  iterables : Array (Program (List Value))

/-- A host that has handed over nothing. -/
def Host.empty : Host := ⟨#[], #[]⟩

structure Context where
  realm : Realm
  host : Host
  converter : Converter := .standard
  config : Config := .standard

namespace Context

variable (ctx : Context)

/-! ## Classification -/

/-- The members that a receiver brings along. -/
def ownMembers? : Value → Option Capability
  | .object o => ctx.host.objects[o.index]?.bind (·.members)
  | _ => none

/-- The prototype that a host object declares, if the realm knows it. -/
def declared? (o : ObjectRef) : Option ProtoId := do
  let object ← ctx.host.objects[o.index]?
  let id ← ctx.realm.resolve? (← object.declared)
  if id.index < ctx.realm.size then some id else none

/-- The prototype that serves a value: the one that a host object declares, else the one for the
value's shape. -/
def classify : Value → ProtoId
  | .object o => (ctx.declared? o).getD ctx.realm.wellKnown.hostObject
  | v => ctx.realm.wellKnown.of (Realm.roleOf v)

/-! ## Candidates at one level -/

/-- The members that a key stands for at one level, among those that `members` finds by name. -/
def tableEntries (members : Prototype → String → List Accessor) (level : Prototype) (key : Value) :
    List Accessor :=
  match ctx.config.tableKey with
  | .prototypeName => members level level.name
  | .member =>
    match key.memberName? with
    | some name => members level name
    | none => []

/-- Reads the first of some members that can be read. -/
def readFirst (this : Value) (cast : Cast) : List Accessor → Program Lookup
  | [] => pure .missing
  | a :: r => (a.read this cast).onMiss fun _ => readFirst this cast r

/-- Leaves an event for an operation that nothing answered. -/
def traceMiss (operation : Operation) (start : ProtoId) (key : Value) : Program Unit := do
  if ctx.config.traceMisses then
    let s ← Program.getStore
    Program.emit (.missed operation (s.describe key) (ctx.realm.nameOf start))

/-! ## Operations from a given prototype -/

/-- Reads a member along some levels. -/
def readLevels (this key : Value) (cast : Cast) : List Prototype → Program Lookup
  | [] => pure .missing
  | level :: rest =>
    let capability := level.capability?.getD .passive
    (capability.read this key cast).onMiss fun _ =>
      (readFirst this cast (ctx.tableEntries Prototype.readable level key)).onMiss fun _ =>
        readLevels this key cast rest

/-- Reads a member of a receiver, beginning at a prototype. -/
def readFrom (start : ProtoId) (this key : Value) (cast : Cast) : Program Lookup :=
  (((ctx.ownMembers? this).getD .passive).read this key cast).onMiss fun _ =>
    (ctx.readLevels this key cast (ctx.realm.chain start)).onMiss fun _ => do
      ctx.traceMiss .read start key
      return .missing

/-- Calls a member along some levels. At each level the first member of the tables that can be
called is the one that answers. -/
def invokeLevels (this key : Value) (args : List Value) (cast : Cast) :
    List Prototype → Program Lookup
  | [] => pure .missing
  | level :: rest =>
    let capability := level.capability?.getD .passive
    (capability.invoke this key args cast).onMiss fun _ =>
      match (ctx.tableEntries Prototype.invocable level key).find? (·.isCallable) with
      | some a => a.invoke this args cast
      | none => invokeLevels this key args cast rest

/-- Calls a member of a receiver, beginning at a prototype. -/
def invokeFrom (start : ProtoId) (this key : Value) (args : List Value) (cast : Cast) :
    Program Lookup :=
  (((ctx.ownMembers? this).getD .passive).invoke this key args cast).onMiss fun _ =>
    (ctx.invokeLevels this key args cast (ctx.realm.chain start)).onMiss fun _ => do
      ctx.traceMiss .invoke start key
      return .missing

/-- Offers a write to some levels. -/
def writeLevels (this key value : Value) (cast : Cast) : List Prototype → Program Bool
  | [] => pure false
  | level :: rest =>
    ((level.capability?.getD .passive).write this key value cast).onRefusal fun _ =>
      writeLevels this key value cast rest

/-- Writes a member of a receiver, beginning at a prototype. -/
def writeFrom (start : ProtoId) (this key value : Value) (cast : Cast) : Program Bool :=
  (((ctx.ownMembers? this).getD .passive).write this key value cast).onRefusal fun _ =>
    (writeLevels this key value cast (ctx.realm.chain start)).onRefusal fun _ => do
      ctx.traceMiss .write start key
      return false

/-- Offers a deletion to some levels. -/
def deleteLevels (this key : Value) : List Prototype → Program Lookup
  | [] => pure .missing
  | level :: rest =>
    ((level.capability?.getD .passive).delete this key).onMiss fun _ => deleteLevels this key rest

/-- Deletes a member of a receiver, beginning at a prototype. -/
def deleteFrom (start : ProtoId) (this key : Value) : Program Lookup :=
  (((ctx.ownMembers? this).getD .passive).delete this key).onMiss fun _ =>
    (deleteLevels this key (ctx.realm.chain start)).onMiss fun _ => do
      ctx.traceMiss .delete start key
      return .missing

/-- Serves a request, beginning at a prototype. -/
def dispatch (start : ProtoId) : (q : Request) → Program q.Answer
  | .read this key cast => ctx.readFrom start this key cast
  | .write this key value cast => ctx.writeFrom start this key value cast
  | .invoke this key args cast => ctx.invokeFrom start this key args cast
  | .delete this key => ctx.deleteFrom start this key

/-- The capability of a prototype. -/
def capability? (id : ProtoId) : Option Capability :=
  (ctx.realm.get? id).bind (·.capability?)

/-- The member of a name in a table of a prototype. -/
def member? (id : ProtoId) (table : NameTable) (name : String) : Option Accessor :=
  (ctx.realm.get? id).bind fun p => (p.table table).find? name

/-- Serves a request through a given server. One that is not there offers nothing. -/
def serveThrough : Server → (q : Request) → Program q.Answer
  | .prototype id, q => ctx.dispatch id q
  | .capability id, q => ((ctx.capability? id).getD .passive).serve q
  | .member id table name, q =>
    (((ctx.member? id table name).map Accessor.capability).getD .passive).serve q

/-- Calls the constructor of a prototype. Constructors are not inherited. -/
def construct (proto : ProtoId) (args : List Value) (cast : Cast) : Program Lookup :=
  match (ctx.realm.get? proto).bind (·.constructor?) with
  | some a => a.invoke .undefined args cast
  | none => pure .missing

/-- A view of a receiver through a prototype; an empty list if the realm does not know it. -/
def viewThrough (proto : ProtoId) (view : View) (this : Value) : Program ListRef :=
  match ctx.realm.get? proto with
  | some p => p.supplier view ⟨p.id, p.name⟩ this
  | none => Program.newList []

/-! ## Operations on values -/

def read (this key : Value) (cast : Cast) : Program Lookup :=
  ctx.readFrom (ctx.classify this) this key cast

def write (this key value : Value) (cast : Cast) : Program Bool :=
  ctx.writeFrom (ctx.classify this) this key value cast

def invoke (this key : Value) (args : List Value) (cast : Cast) : Program Lookup :=
  ctx.invokeFrom (ctx.classify this) this key args cast

def delete (this key : Value) : Program Lookup :=
  ctx.deleteFrom (ctx.classify this) this key

def view (view : View) (this : Value) : Program ListRef :=
  ctx.viewThrough (ctx.classify this) view this

/-- Applies a coercion of the prototype that serves a value. -/
def coerce {α : Type} (strategy : Prototype → Coercion α) (generic : Coercion α) (this : Value) :
    Program α := do
  let s ← Program.getStore
  return (((ctx.realm.get? (ctx.classify this)).map strategy).getD generic) s this

def displayText (this : Value) : Program String :=
  ctx.coerce Prototype.asString Store.display this

def numberOf (this : Value) : Program Number :=
  ctx.coerce Prototype.asNumber Store.number this

def truthOf (this : Value) : Program Bool :=
  ctx.coerce Prototype.asBoolean (fun _ v => v.truth) this

/-- The values that an iterable yields this time. -/
def drain (i : IterableRef) : Program (List Value) :=
  ctx.host.iterables[i.index]?.getD (pure [])

/-! ## Answering queries -/

/-- The program that answers a question about the realm. Only coercions look into the store. -/
def reflect : (r : Reflection) → Program r.Answer
  | .resolve proto => pure (ctx.realm.resolve? proto)
  | .classify this => pure (ctx.classify this)
  | .size => pure ctx.realm.size
  | .outline proto => pure ((ctx.realm.get? proto).map (·.outline))
  | .chain proto => pure ((ctx.realm.chain proto).map (·.id))
  | .constructor? proto => pure (((ctx.realm.get? proto).bind (·.constructor?)).map (·.sort))
  | .hasCapability proto => pure (ctx.capability? proto).isSome
  | .displayText proto this => do
    let s ← Program.getStore
    return (ctx.realm.get? proto).map fun p => p.asString s this
  | .numberOf proto this => do
    let s ← Program.getStore
    return (ctx.realm.get? proto).map fun p => p.asNumber s this
  | .truthOf proto this => do
    let s ← Program.getStore
    return (ctx.realm.get? proto).map fun p => p.asBoolean s this
  | .member proto table name =>
    pure ((ctx.member? proto table name).map (·.sort))
  | .ownKeys proto => pure (ctx.realm.ownKeys proto)
  | .allKeys proto => pure (ctx.realm.allKeys proto)
  | .describe proto => pure ((ctx.realm.get? proto).map (·.describe))

/-- The program that answers a query. -/
def handle : (q : Query) → Program q.Answer
  | .read this key cast => ctx.read this key cast
  | .write this key value cast => ctx.write this key value cast
  | .invoke this key args cast => ctx.invoke this key args cast
  | .delete this key => ctx.delete this key
  | .through server q => ctx.serveThrough server q
  | .construct proto args cast => ctx.construct proto args cast
  | .view v this => ctx.view v this
  | .viewThrough proto v this =>
    match ctx.realm.resolve? proto with
    | some id => ctx.viewThrough id v this
    | none => Program.newList []
  | .displayText this => ctx.displayText this
  | .numberOf this => ctx.numberOf this
  | .truthOf this => ctx.truthOf this
  | .reflect r => ctx.reflect r
  | .toScript v => ctx.converter.toScript v
  | .toHost v hint => ctx.converter.toHost v hint
  | .drain i => ctx.drain i

/-- Answers queries that are nested at most `depth` deep. -/
def answer : Nat → (q : Query) → Machine → Ending q.Answer
  | 0, _, m => .exhausted m
  | depth + 1, q, m => (ctx.handle q).run (answer depth) m

/-- Runs a program in the context, with queries nested at most `depth` deep. -/
def run {α : Type} (depth : Nat) (p : Program α) (m : Machine) : Ending α :=
  p.run (ctx.answer depth) m

end Context

end ScriptRealm
