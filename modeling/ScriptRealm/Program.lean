import ScriptRealm.Reflection
import ScriptRealm.Store

/-!
# Programs

What host callbacks, converters and built-in members do, written down before it is done. A program
reads and replaces the store, leaves events, and puts queries to the context that runs it; what a
query means is not its business. Two programs that are equal have the same outcome and the same
effects in every context.
-/

namespace ScriptRealm

/-- How a value is converted on its way across the boundary. -/
inductive Cast where
  | identity
  /-- a host value to the form that scripts see -/
  | toScript
  /-- a script value to a host value, perhaps of a wanted type -/
  | toHost (hint : Option HostType)
deriving DecidableEq, Repr

/-- The answer to looking a member up. A member that holds undefined or null is found. -/
inductive Lookup where
  | found (v : Value)
  | missing
deriving DecidableEq, Inhabited, Repr

/-- The views of a receiver. -/
inductive View where
  | keys
  | values
  | entries
deriving DecidableEq, Repr

/-- The operations on members. -/
inductive Operation where
  | read
  | write
  | invoke
  | delete
deriving DecidableEq, Repr

def Operation.name : Operation → String
  | .read => "read"
  | .write => "write"
  | .invoke => "invoke"
  | .delete => "delete"

/-- What a run leaves behind for its observers. Lines that are only for debugging are not among it,
such as the one for a host object that declares a prototype which the realm does not know. -/
inductive Event where
  /-- a line that a host callback wrote -/
  | note (line : String)
  /-- an operation that no member answered, with the diagnostic text of its key and the name of the
  prototype where the search began -/
  | missed (operation : Operation) (key : String) (start : String)
deriving DecidableEq, Repr

/-- An event as a line of a log. -/
def Event.line : Event → String
  | .note line => line
  | .missed operation key start =>
    "trace: " ++ operation.name ++ " of " ++ key ++ " missed on " ++ start

/-! ## Queries and effects -/

/-- An operation on a member, with all that its caller hands over. -/
inductive Request where
  | read (this key : Value) (cast : Cast)
  | write (this key value : Value) (cast : Cast)
  | invoke (this key : Value) (args : List Value) (cast : Cast)
  | delete (this key : Value)

/-- The type of the answer to a request. -/
abbrev Request.Answer : Request → Type
  | .read .. => Lookup
  | .write .. => Bool
  | .invoke .. => Lookup
  | .delete .. => Lookup

/-- Who is to serve a request, where that is not left to the receiver. -/
inductive Server where
  /-- the receiver's own members, and then the chain of a prototype -/
  | prototype (id : ProtoId)
  /-- the capability of one prototype, and nobody else -/
  | capability (id : ProtoId)
  /-- one member of a table, and nobody else -/
  | member (id : ProtoId) (table : NameTable) (name : String)

/-- What a program can ask of the context that runs it. Everything that a realm offers can be asked
for. The configuration is not shown. -/
inductive Query where
  | read (this key : Value) (cast : Cast)
  | write (this key value : Value) (cast : Cast)
  | invoke (this key : Value) (args : List Value) (cast : Cast)
  | delete (this key : Value)
  /-- an operation on a member that does not begin at the prototype of its receiver -/
  | through (server : Server) (q : Request)
  | construct (proto : ProtoId) (args : List Value) (cast : Cast)
  /-- a view of a receiver through its own prototype -/
  | view (view : View) (this : Value)
  /-- a view of a receiver through a given prototype -/
  | viewThrough (proto : ProtoRef) (view : View) (this : Value)
  | displayText (this : Value)
  | numberOf (this : Value)
  | truthOf (this : Value)
  /-- a question about the realm -/
  | reflect (r : Reflection)
  | toScript (v : Value)
  | toHost (v : Value) (hint : Option HostType)
  /-- the values that an iterable yields this time -/
  | drain (i : IterableRef)

/-- The type of the answer to a query. -/
def Query.Answer : Query → Type
  | .read .. => Lookup
  | .write .. => Bool
  | .invoke .. => Lookup
  | .delete .. => Lookup
  | .through _ q => q.Answer
  | .construct .. => Lookup
  | .view .. => ListRef
  | .viewThrough .. => ListRef
  | .displayText _ => String
  | .numberOf _ => Number
  | .truthOf _ => Bool
  | .reflect r => r.Answer
  | .toScript _ => Value
  | .toHost .. => Value
  | .drain _ => List Value

/-- One step of a program. -/
inductive Effect where
  | getStore
  | setStore (s : Store)
  | emit (e : Event)
  | ask (q : Query)

/-- The type of what a step hands back. A query may fail, and the program may go on after that. -/
def Effect.Result : Effect → Type
  | .getStore => Store
  | .setStore _ => Unit
  | .emit _ => Unit
  | .ask q => Except ScriptError q.Answer

/-- A program that ends in a result of type `α` or in an error. -/
inductive Program (α : Type) where
  | done (a : α)
  | fail (e : ScriptError)
  | perform (e : Effect) (next : e.Result → Program α)

namespace Program

variable {α β : Type}

/-- Goes on with the result of a program. -/
def bind : Program α → (α → Program β) → Program β
  | .done a, f => f a
  | .fail e, _ => .fail e
  | .perform e next, f => .perform e fun r => (next r).bind f

instance : Monad Program where
  pure := .done
  bind := bind

theorem bind_done (p : Program α) : p.bind .done = p := by
  induction p with
  | done a => rfl
  | fail e => rfl
  | perform e next ih => exact congrArg (perform e) (funext ih)

theorem bind_assoc {γ : Type} (p : Program α) (f : α → Program β) (g : β → Program γ) :
    (p.bind f).bind g = p.bind fun a => (f a).bind g := by
  induction p with
  | done a => rfl
  | fail e => rfl
  | perform e next ih => exact congrArg (perform e) (funext ih)

instance : LawfulMonad Program := LawfulMonad.mk' Program bind_done (fun _ _ => rfl) bind_assoc

/-! ## Single steps -/

def getStore : Program Store :=
  .perform .getStore .done

def setStore (s : Store) : Program Unit :=
  .perform (.setStore s) .done

def emit (e : Event) : Program Unit :=
  .perform (.emit e) .done

/-- Writes a line to the log. -/
def note (line : String) : Program Unit :=
  emit (.note line)

/-- Puts a query; if it fails, the program fails with it. -/
def ask (q : Query) : Program q.Answer :=
  .perform (.ask q) fun
    | .ok a => .done a
    | .error e => .fail e

/-! ## Collections -/

/-- The content of a list. -/
def list (l : ListRef) : Program (List Value) := do
  return (← getStore).list l

/-- The content of a map. -/
def map (m : MapRef) : Program (Assoc Value) := do
  return (← getStore).map m

/-- Makes a fresh list. -/
def newList (items : List Value) : Program ListRef := do
  let (l, s) := (← getStore).newList items
  setStore s
  return l

/-- Replaces the content of a list. -/
def setList (l : ListRef) (items : List Value) : Program Unit := do
  setStore ((← getStore).setList l items)

/-- Replaces the content of a map. -/
def setMap (m : MapRef) (entries : Assoc Value) : Program Unit := do
  setStore ((← getStore).setMap m entries)

/-! ## Alternatives -/

/-- Goes on to another look-up if the first one misses. -/
def onMiss (p : Program Lookup) (next : Unit → Program Lookup) : Program Lookup :=
  p.bind fun
    | .found v => .done (.found v)
    | .missing => next ()

/-- Goes on to another write if the first one is refused. -/
def onRefusal (p : Program Bool) (next : Unit → Program Bool) : Program Bool :=
  p.bind fun
    | true => .done true
    | false => next ()

@[simp] theorem found_onMiss (v : Value) (next : Unit → Program Lookup) :
    (done (.found v)).onMiss next = done (.found v) := rfl

@[simp] theorem missing_onMiss (next : Unit → Program Lookup) :
    (done .missing).onMiss next = next () := rfl

/-- A chain of look-ups can be cut anywhere. -/
theorem onMiss_assoc (p : Program Lookup) (q r : Unit → Program Lookup) :
    (p.onMiss q).onMiss r = p.onMiss fun _ => (q ()).onMiss r := by
  simp only [onMiss, bind_assoc]
  congr 1
  funext a
  cases a <;> rfl

@[simp] theorem true_onRefusal (next : Unit → Program Bool) :
    (done true).onRefusal next = done true := rfl

@[simp] theorem false_onRefusal (next : Unit → Program Bool) :
    (done false).onRefusal next = next () := rfl

/-- A chain of writes can be cut anywhere. -/
theorem onRefusal_assoc (p : Program Bool) (q r : Unit → Program Bool) :
    (p.onRefusal q).onRefusal r = p.onRefusal fun _ => (q ()).onRefusal r := by
  simp only [onRefusal, bind_assoc]
  congr 1
  funext a
  cases a <;> rfl

end Program

/-- Converts a value as a cast says. -/
def Cast.apply : Cast → Value → Program Value
  | .identity, v => pure v
  | .toScript, v => Program.ask (.toScript v)
  | .toHost hint, v => Program.ask (.toHost v hint)

/-! ## Running -/

/-- What a run changes. -/
structure Machine where
  store : Store
  log : Array Event
deriving Inhabited

/-- How a run ends, always with the machine as it then is. A run is exhausted when queries are
nested deeper than allowed, which is no error of the script. -/
inductive Ending (α : Type) where
  | returned (a : α) (m : Machine)
  | threw (e : ScriptError) (m : Machine)
  | exhausted (m : Machine)

/-- Runs a program, given the answers to its queries. -/
def Program.run {α : Type} (answer : (q : Query) → Machine → Ending q.Answer) :
    Program α → Machine → Ending α
  | .done a, m => .returned a m
  | .fail e, m => .threw e m
  | .perform .getStore next, m => (next m.store).run answer m
  | .perform (.setStore s) next, m => (next ()).run answer { m with store := s }
  | .perform (.emit e) next, m => (next ()).run answer { m with log := m.log.push e }
  | .perform (.ask q) next, m =>
    match answer q m with
    | .returned a m => (next (.ok a)).run answer m
    | .threw e m => (next (.error e)).run answer m
    | .exhausted m => .exhausted m

/-- Goes on after a run that returned. -/
def Ending.andThen {α β : Type} : Ending α → (α → Machine → Ending β) → Ending β
  | .returned a m, f => f a m
  | .threw e m, _ => .threw e m
  | .exhausted m, _ => .exhausted m

/-- The parts of a program run one after the other. -/
theorem Program.run_bind {α β : Type} (answer : (q : Query) → Machine → Ending q.Answer)
    (p : Program α) (f : α → Program β) (m : Machine) :
    (p.bind f).run answer m = (p.run answer m).andThen fun a m => (f a).run answer m := by
  induction p generalizing m with
  | done a => rfl
  | fail e => rfl
  | perform e next ih =>
    cases e with
    | getStore => exact ih m.store m
    | setStore s => exact ih () { m with store := s }
    | emit e => exact ih () { m with log := m.log.push e }
    | ask q =>
      simp only [Program.bind, Program.run]
      cases answer q m with
      | returned a m => exact ih (.ok a) m
      | threw e m => exact ih (.error e) m
      | exhausted m => rfl

end ScriptRealm
