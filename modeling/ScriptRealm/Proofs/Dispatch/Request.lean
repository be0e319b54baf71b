import ScriptRealm.Proofs.Run

/-!
# Requests

The four operations on members as one kind of data: what counts as a miss, and who may be asked. A
candidate serves every request, and most of them only by missing.
-/

namespace ScriptRealm

namespace Request

def operation : Request → Operation
  | .read .. => .read
  | .write .. => .write
  | .invoke .. => .invoke
  | .delete .. => .delete

/-- The receiver. -/
def this : Request → Value
  | .read this .. => this
  | .write this .. => this
  | .invoke this .. => this
  | .delete this _ => this

def key : Request → Value
  | .read _ key _ => key
  | .write _ key .. => key
  | .invoke _ key .. => key
  | .delete _ key => key

/-- The answer that says that there is no such member, or that a write is refused. -/
def miss : (q : Request) → q.Answer
  | .read .. => Lookup.missing
  | .write .. => false
  | .invoke .. => Lookup.missing
  | .delete .. => Lookup.missing

def isMiss : (q : Request) → q.Answer → Bool
  | .read .., a => a = Lookup.missing
  | .write .., a => !a
  | .invoke .., a => a = Lookup.missing
  | .delete .., a => a = Lookup.missing

@[simp] theorem isMiss_miss (q : Request) : q.isMiss q.miss = true := by
  cases q <;> rfl

theorem eq_miss_of_isMiss (q : Request) {a : q.Answer} (h : q.isMiss a = true) : a = q.miss := by
  cases q with
  | read => exact of_decide_eq_true h
  | write => exact Bool.not_eq_true' a ▸ h
  | invoke => exact of_decide_eq_true h
  | delete => exact of_decide_eq_true h

/-- Goes on to another program if the first one misses. -/
def orElse : (q : Request) → Program q.Answer → (Unit → Program q.Answer) → Program q.Answer
  | .read .. => Program.onMiss
  | .write .. => Program.onRefusal
  | .invoke .. => Program.onMiss
  | .delete .. => Program.onMiss

@[simp] theorem miss_orElse (q : Request) (next : Unit → Program q.Answer) :
    q.orElse (pure q.miss) next = next () := by
  cases q <;> rfl

/-- A chain of alternatives can be cut anywhere. -/
theorem orElse_assoc (q : Request) (p : Program q.Answer) (r s : Unit → Program q.Answer) :
    q.orElse (q.orElse p r) s = q.orElse p fun _ => q.orElse (r ()) s := by
  cases q with
  | read => exact Program.onMiss_assoc p r s
  | write => exact Program.onRefusal_assoc p r s
  | invoke => exact Program.onMiss_assoc p r s
  | delete => exact Program.onMiss_assoc p r s

/-- An alternative that only misses changes nothing. -/
@[simp] theorem orElse_miss (q : Request) (p : Program q.Answer) :
    (q.orElse p fun _ => pure q.miss) = p := by
  have hdone : ∀ f : q.Answer → Program q.Answer, (∀ a, f a = .done a) → p.bind f = p := by
    intro f hf
    rw [funext hf, Program.bind_done]
  cases q <;> exact hdone _ (by intro a; cases a <;> rfl)

/-- The second program runs where the first one has missed, and nowhere else. -/
theorem run_orElse (answer : (q : Query) → Machine → Ending q.Answer) (q : Request)
    (p : Program q.Answer) (next : Unit → Program q.Answer) (m : Machine) :
    (q.orElse p next).run answer m =
      (p.run answer m).andThen fun a m =>
        if q.isMiss a then (next ()).run answer m else .returned a m := by
  have hbind : ∀ f : q.Answer → Program q.Answer,
      (∀ a, f a = if q.isMiss a then next () else .done a) →
      (p.bind f).run answer m = (p.run answer m).andThen fun a m =>
        if q.isMiss a then (next ()).run answer m else .returned a m := by
    intro f hf
    rw [Program.run_bind]
    congr 1
    funext a m'
    rw [hf a]
    split <;> rfl
  cases q <;> exact hbind _ (by intro a; cases a <;> rfl)

end Request

/-! ## Outcomes -/

/-- How a request ends, whatever the machine is then. -/
inductive Outcome where
  /-- of reading, calling and deleting -/
  | looked (r : Lookup)
  /-- of writing -/
  | wrote (accepted : Bool)
  | threw (e : ScriptError)
  | exhausted
deriving DecidableEq

/-- Nothing was found, or the write was not accepted. -/
def Outcome.isMiss : Outcome → Bool
  | .looked r => r = .missing
  | .wrote accepted => !accepted
  | .threw _ => false
  | .exhausted => false

/-- How a run ends, with a result as the outcome that it stands for. -/
def Ending.outcome {α : Type} (ofResult : α → Outcome) : Ending α → Outcome
  | .returned a _ => ofResult a
  | .threw e _ => .threw e
  | .exhausted _ => .exhausted

namespace Request

/-- An answer as an outcome. -/
def answered : (q : Request) → q.Answer → Outcome
  | .read .., r => .looked r
  | .write .., accepted => .wrote accepted
  | .invoke .., r => .looked r
  | .delete .., r => .looked r

def outcome (q : Request) (ending : Ending q.Answer) : Outcome :=
  ending.outcome q.answered

@[simp] theorem isMiss_answered (q : Request) (a : q.Answer) :
    (q.answered a).isMiss = q.isMiss a := by
  cases q <;> rfl

end Request

@[simp] theorem Capability.serve_passive (q : Request) : passive.serve q = pure q.miss := by
  cases q <;> rfl

/-! ## Candidates -/

/-- Whoever may answer a request. -/
inductive Candidate where
  /-- the members that the receiver brings along -/
  | own (c : Capability)
  /-- the capability of a level of the chain -/
  | level (c : Capability)
  /-- a member of a name table -/
  | entry (a : Accessor)

/-- What a candidate does with a request. -/
def Candidate.serve : Candidate → (q : Request) → Program q.Answer
  | .own c, q => c.serve q
  | .level c, q => c.serve q
  | .entry a, q => a.capability.serve q

/-- The host callback that a member runs for a request, with what it is given. -/
def Accessor.callback? : Accessor → Request → Option (Program Value)
  | .property get, .read this _ _ => some (get this)
  | .staticProperty get, .read .. => some get
  | .method call, .invoke this _ args _ => some (call this args)
  | .staticMethod call, .invoke _ _ args _ => some (call args)
  | _, _ => none

/-- Whether asking a candidate runs a callback of a name table. -/
def Candidate.runsCallback (q : Request) : Candidate → Bool
  | .entry a => (a.callback? q).isSome
  | _ => false

/-- The tables that an operation looks names up in, the instance table first. -/
def Prototype.tables (p : Prototype) : Operation → List (Assoc Accessor)
  | .read => [p.properties, p.staticProperties]
  | .invoke => [p.functions, p.staticFunctions]
  | .write => []
  | .delete => []

/-- The tables that an operation looks names up in. -/
def NameTable.searched : Operation → List NameTable
  | .read => [.properties, .staticProperties]
  | .invoke => [.functions, .staticFunctions]
  | .write => []
  | .delete => []

theorem Prototype.tables_eq_map (p : Prototype) (operation : Operation) :
    p.tables operation = (NameTable.searched operation).map p.table := by
  cases operation <;> rfl

namespace Context

variable (ctx : Context)

/-- The name that the tables of a level are searched for. -/
def tableName? (level : Prototype) (key : Value) : Option String :=
  match ctx.config.tableKey with
  | .member => key.memberName?
  | .prototypeName => some level.name

/-- The members of a name that stand in the tables for an operation. -/
def levelEntries (level : Prototype) (operation : Operation) (key : Value) : List Accessor :=
  (level.tables operation).filterMap fun table => (ctx.tableName? level key).bind table.find?

/-- The candidates at one level: its capability, then the members of its tables. -/
def levelCandidates (q : Request) (level : Prototype) : List Candidate :=
  level.capability?.toList.map .level ++ (ctx.levelEntries level q.operation q.key).map .entry

/-- All candidates for a request, in the order in which they are asked. -/
def candidates (start : ProtoId) (q : Request) : List Candidate :=
  (ctx.ownMembers? q.this).toList.map .own ++
    (ctx.realm.chain start).flatMap (ctx.levelCandidates q)

end Context

end ScriptRealm
