import ScriptRealm.Proofs.Dispatch.Walk
import ScriptRealm.Proofs.Queries

/-!
# Tracing only observes

Misses can be traced or not. A journal lists all that happens in a run, the ends of dispatches among
it, however deep the queries that led to them are nested. The same steps with and without tracing go
in lockstep on stores that are always the same; their journals differ in one event for each dispatch
that missed, which stands right before that dispatch ends.

A program cannot look at the configuration or at the log, so nothing has to be assumed about
callbacks and converters.
-/

namespace ScriptRealm

variable {α β : Type}

/-! ## Journals -/

/-- What happens in a run. -/
inductive Incident where
  | event (e : Event)
  /-- a dispatch came to its end, with the store as it then was -/
  | ended (start : ProtoId) (q : Request) (outcome : Outcome) (s : Store)

namespace Incident

/-- What the log holds of an incident. -/
def event? : Incident → Option Event
  | .event e => some e
  | .ended .. => none

/-- The event that tells of a miss. -/
def trace? (realm : Realm) : Incident → Option Event
  | .event _ => none
  | .ended start q outcome s =>
    if outcome.isMiss then some (.missed q.operation (s.describe q.key) (realm.nameOf start))
    else none

/-- An incident as it is when misses are traced. -/
def traced (realm : Realm) (i : Incident) : List Incident :=
  ((i.trace? realm).map .event).toList ++ [i]

@[simp] theorem traced_event (realm : Realm) (e : Event) :
    (event e).traced realm = [.event e] := rfl

end Incident

namespace Program

variable (answer : (q : Query) → Machine → Ending q.Answer)

/-- The journal of a run, given the answers to its queries and what happens while they are found. -/
def journal (inner : Query → Machine → List Incident) : Program α → Machine → List Incident
  | .done _, _ => []
  | .fail _, _ => []
  | .perform .getStore next, m => (next m.store).journal inner m
  | .perform (.setStore s) next, m => (next ()).journal inner { m with store := s }
  | .perform (.emit e) next, m =>
    .event e :: (next ()).journal inner { m with log := m.log.push e }
  | .perform (.ask q) next, m =>
    inner q m ++ match answer q m with
      | .returned a m => (next (.ok a)).journal inner m
      | .threw e m => (next (.error e)).journal inner m
      | .exhausted _ => []

variable (inner : Query → Machine → List Incident)

theorem journal_bind (p : Program α) (f : α → Program β) (m : Machine) :
    (p.bind f).journal answer inner m =
      p.journal answer inner m ++
        (p.run answer m).continued fun a m => (f a).journal answer inner m := by
  induction p generalizing m with
  | done a => rfl
  | fail e => rfl
  | perform e next ih =>
    cases e with
    | getStore => exact ih m.store m
    | setStore s => exact ih () { m with store := s }
    | emit e => exact congrArg (.event e :: ·) (ih () { m with log := m.log.push e })
    | ask q =>
      simp only [Program.bind, journal, run, List.append_assoc]
      cases answer q m with
      | returned a m => exact congrArg (inner q _ ++ ·) (ih (.ok a) m)
      | threw e m => exact congrArg (inner q _ ++ ·) (ih (.error e) m)
      | exhausted m => rfl

end Program

/-- An alternative adds to the journal what happens after a miss. -/
theorem Request.journal_orElse (answer : (q : Query) → Machine → Ending q.Answer)
    (inner : Query → Machine → List Incident) (q : Request) (p : Program q.Answer)
    (next : Unit → Program q.Answer) (m : Machine) :
    (q.orElse p next).journal answer inner m =
      p.journal answer inner m ++ (p.run answer m).continued fun a m =>
        if q.isMiss a then (next ()).journal answer inner m else [] := by
  -- for each kind of request an alternative is a bind that looks whether there was a miss
  have hbind : ∀ f : q.Answer → Program q.Answer,
      (∀ a, f a = if q.isMiss a then next () else .done a) →
      (p.bind f).journal answer inner m =
        p.journal answer inner m ++ (p.run answer m).continued fun a m =>
          if q.isMiss a then (next ()).journal answer inner m else [] := by
    intro f hf
    rw [Program.journal_bind]
    congr 2
    funext a m'
    rw [hf a]
    split <;> rfl
  cases q <;> exact hbind _ (by intro a; cases a <;> rfl)

/-- An operation on a member, with the prototype where the search begins. -/
structure Turn where
  start : ProtoId
  request : Request

namespace Context

variable (ctx : Context)

/-- The journal of a dispatch: what happens on its way, and at last that it ends. -/
def dispatchJournal (answer : (q : Query) → Machine → Ending q.Answer)
    (inner : Query → Machine → List Incident) (start : ProtoId) (q : Request) (m : Machine) :
    List Incident :=
  let ending := (ctx.dispatch start q).run answer m
  (ctx.dispatch start q).journal answer inner m ++
    [.ended start q (q.outcome ending) ending.machine.store]

/-- The dispatch that a query asks for. It begins at the prototype of the receiver, unless the query
gives another one. -/
def turn? : Query → Option Turn
  | .read this key cast => some ⟨ctx.classify this, .read this key cast⟩
  | .write this key value cast => some ⟨ctx.classify this, .write this key value cast⟩
  | .invoke this key args cast => some ⟨ctx.classify this, .invoke this key args cast⟩
  | .delete this key => some ⟨ctx.classify this, .delete this key⟩
  | .through (.prototype id) q => some ⟨id, q⟩
  | _ => none

/-- What happens while a query is answered. -/
def journal : Nat → Query → Machine → List Incident
  | 0, _, _ => []
  | depth + 1, q, m =>
    match ctx.turn? q with
    | some turn =>
      ctx.dispatchJournal (ctx.answer depth) (journal depth) turn.start turn.request m
    | none => (ctx.handle q).journal (ctx.answer depth) (journal depth) m

end Context

/-! ## Steps -/

/-- What comes of a sequence of steps. -/
structure Transcript where
  outcomes : List Outcome
  journal : List Incident
  machine : Machine

/-- Takes steps one after the other; one that fails does not keep the next from being taken. -/
def Context.play (ctx : Context) (depth : Nat) : List Turn → Machine → Transcript
  | [], m => ⟨[], [], m⟩
  | turn :: rest, m =>
    let ending := ctx.run depth (ctx.dispatch turn.start turn.request) m
    let later := ctx.play depth rest ending.machine
    { outcomes := turn.request.outcome ending :: later.outcomes
      journal :=
        ctx.dispatchJournal (ctx.answer depth) (ctx.journal depth) turn.start turn.request m ++
          later.journal
      machine := later.machine }

/-! ## The log is in the journal -/

/-- The answers add to the log what the journals hold of it. -/
def JournalsLog (answer : (q : Query) → Machine → Ending q.Answer)
    (inner : Query → Machine → List Incident) : Prop :=
  ∀ q m, (answer q m).machine.log.toList = m.log.toList ++ (inner q m).filterMap Incident.event?

theorem Program.log_run {answer : (q : Query) → Machine → Ending q.Answer}
    {inner : Query → Machine → List Incident} (h : JournalsLog answer inner) (p : Program α)
    (m : Machine) :
    (p.run answer m).machine.log.toList =
      m.log.toList ++ (p.journal answer inner m).filterMap Incident.event? := by
  induction p generalizing m with
  | done a => simp [Ending.machine, journal]
  | fail e => simp [Ending.machine, journal]
  | perform e next ih =>
    cases e with
    | getStore => exact ih m.store m
    | setStore s => exact ih () { m with store := s }
    | emit e =>
      refine (ih () { m with log := m.log.push e }).trans ?_
      rw [Array.toList_push, List.append_assoc]
      rfl
    | ask q =>
      have hq := h q m
      simp only [run, journal, List.filterMap_append, ← List.append_assoc, ← hq]
      cases answer q m with
      | returned a m' => exact ih (.ok a) m'
      | threw e m' => exact ih (.error e) m'
      | exhausted m' => exact (List.append_nil _).symm

namespace Context

variable (ctx : Context)

theorem log_dispatch {answer : (q : Query) → Machine → Ending q.Answer}
    {inner : Query → Machine → List Incident} (h : JournalsLog answer inner) (start : ProtoId)
    (q : Request) (m : Machine) :
    ((ctx.dispatch start q).run answer m).machine.log.toList =
      m.log.toList ++ (ctx.dispatchJournal answer inner start q m).filterMap Incident.event? := by
  rw [Program.log_run h, dispatchJournal, List.filterMap_append]
  simp [Incident.event?]

theorem journalsLog_answer (depth : Nat) : JournalsLog (ctx.answer depth) (ctx.journal depth) := by
  induction depth with
  | zero => exact fun q m => (List.append_nil _).symm
  | succ depth ih =>
    intro q m
    cases q with
    | read this key cast => exact ctx.log_dispatch ih _ (.read this key cast) m
    | write this key value cast =>
      exact ctx.log_dispatch ih _ (.write this key value cast) m
    | invoke this key args cast =>
      exact ctx.log_dispatch ih _ (.invoke this key args cast) m
    | delete this key => exact ctx.log_dispatch ih _ (.delete this key) m
    | through server q =>
      cases server with
      | prototype id => exact ctx.log_dispatch ih id q m
      | _ => exact Program.log_run ih _ m
    | _ => exact Program.log_run ih _ m

theorem log_play (depth : Nat) (turns : List Turn) (m : Machine) :
    (ctx.play depth turns m).machine.log.toList =
      m.log.toList ++ (ctx.play depth turns m).journal.filterMap Incident.event? := by
  induction turns generalizing m with
  | nil => simp [play]
  | cons turn rest ih =>
    rw [play, ih, run, ctx.log_dispatch (ctx.journalsLog_answer depth), List.filterMap_append,
      List.append_assoc]

end Context

/-! ## Two runs in lockstep -/

/-- Two runs end alike, with the same store; their logs may differ. -/
inductive Ending.SameButLog : Ending α → Ending α → Prop where
  | returned (a : α) {m m' : Machine} (h : m'.store = m.store) :
    SameButLog (.returned a m) (.returned a m')
  | threw (e : ScriptError) {m m' : Machine} (h : m'.store = m.store) :
    SameButLog (.threw e m) (.threw e m')
  | exhausted {m m' : Machine} (h : m'.store = m.store) :
    SameButLog (.exhausted m) (.exhausted m')

theorem Ending.SameButLog.store {ending ending' : Ending α} (h : ending.SameButLog ending') :
    ending'.machine.store = ending.machine.store := by
  cases h <;> assumption

theorem Ending.SameButLog.outcome {q : Request} {ending ending' : Ending q.Answer}
    (h : ending.SameButLog ending') : q.outcome ending' = q.outcome ending := by
  cases h <;> rfl

/-- Answers without tracing and answers with it, from machines with the same store. -/
structure Lockstep (realm : Realm) (answer answer' : (q : Query) → Machine → Ending q.Answer)
    (inner inner' : Query → Machine → List Incident) : Prop where
  ending : ∀ q {m m' : Machine}, m'.store = m.store → (answer q m).SameButLog (answer' q m')
  journal : ∀ q {m m' : Machine}, m'.store = m.store →
    inner' q m' = (inner q m).flatMap (·.traced realm)

namespace Lockstep

variable {realm : Realm} {answer answer' : (q : Query) → Machine → Ending q.Answer}
  {inner inner' : Query → Machine → List Incident}

theorem run (h : Lockstep realm answer answer' inner inner') (p : Program α) {m m' : Machine}
    (hstore : m'.store = m.store) : (p.run answer m).SameButLog (p.run answer' m') := by
  induction p generalizing m m' with
  | done a => exact .returned a hstore
  | fail e => exact .threw e hstore
  | perform e next ih =>
    cases e with
    | getStore =>
      rw [Program.run, Program.run, hstore]
      exact ih m.store hstore
    | setStore s => exact ih () rfl
    | emit e => exact ih () hstore
    | ask q =>
      -- both runs go on with the same answer, if with any, and the same store
      have hq := h.ending q hstore
      simp only [Program.run]
      generalize answer q m = ending at hq ⊢
      generalize answer' q m' = ending' at hq ⊢
      cases hq with
      | returned a hafter => exact ih (.ok a) hafter
      | threw e hafter => exact ih (.error e) hafter
      | exhausted hafter => exact .exhausted hafter

theorem journal_run (h : Lockstep realm answer answer' inner inner') (p : Program α)
    {m m' : Machine} (hstore : m'.store = m.store) :
    p.journal answer' inner' m' = (p.journal answer inner m).flatMap (·.traced realm) := by
  induction p generalizing m m' with
  | done a => rfl
  | fail e => rfl
  | perform e next ih =>
    cases e with
    | getStore =>
      rw [Program.journal, Program.journal, hstore]
      exact ih m.store hstore
    | setStore s => exact ih () rfl
    | emit e => exact congrArg (Incident.event e :: ·) (ih () hstore)
    | ask q =>
      have hq := h.ending q hstore
      simp only [Program.journal, List.flatMap_append, h.journal q hstore]
      congr 1
      generalize answer q m = ending at hq ⊢
      generalize answer' q m' = ending' at hq ⊢
      cases hq with
      | returned a hafter => exact ih (.ok a) hafter
      | threw e hafter => exact ih (.error e) hafter
      | exhausted hafter => rfl

end Lockstep

/-! ## With and without tracing -/

namespace Context

/-- The context with misses traced or not. -/
def tracing (ctx : Context) (traceMisses : Bool) : Context :=
  { ctx with config := { ctx.config with traceMisses } }

variable (ctx : Context)

@[simp] theorem candidates_tracing (on : Bool) (start : ProtoId) (q : Request) :
    (ctx.tracing on).candidates start q = ctx.candidates start q := rfl

/-- Without tracing a dispatch only asks its candidates. -/
theorem dispatch_quiet (start : ProtoId) (q : Request) :
    (ctx.tracing false).dispatch start q = q.askAll (ctx.candidates start q) := by
  rw [dispatch_eq_askAll]
  exact q.orElse_miss _

/-- With tracing a dispatch leaves one more event if it misses. -/
theorem journal_dispatch_loud (answer : (q : Query) → Machine → Ending q.Answer)
    (inner : Query → Machine → List Incident) (start : ProtoId) (q : Request) (m : Machine) :
    ((ctx.tracing true).dispatch start q).journal answer inner m =
      (q.askAll (ctx.candidates start q)).journal answer inner m ++
        ((q.askAll (ctx.candidates start q)).run answer m).continued fun a m =>
          if q.isMiss a then
            [.event (.missed q.operation (m.store.describe q.key) (ctx.realm.nameOf start))]
          else [] := by
  rw [dispatch_eq_askAll, Request.journal_orElse]
  rfl

theorem sameButLog_conclude (start : ProtoId) {q : Request} {ending ending' : Ending q.Answer}
    (h : ending.SameButLog ending') : ending.SameButLog (ctx.conclude start q ending') := by
  cases h with
  | returned a hstore =>
    simp only [conclude]
    split
    · exact .returned a hstore
    · exact .returned a hstore
  | threw e hstore => exact .threw e hstore
  | exhausted hstore => exact .exhausted hstore

variable {answer answer' : (q : Query) → Machine → Ending q.Answer}
  {inner inner' : Query → Machine → List Incident}

theorem lockstep_dispatch (h : Lockstep ctx.realm answer answer' inner inner') (start : ProtoId)
    (q : Request) {m m' : Machine} (hstore : m'.store = m.store) :
    (((ctx.tracing false).dispatch start q).run answer m).SameButLog
      (((ctx.tracing true).dispatch start q).run answer' m') := by
  rw [dispatch_quiet, run_dispatch, candidates_tracing]
  exact sameButLog_conclude _ start (h.run (q.askAll (ctx.candidates start q)) hstore)

/-- The journal of a dispatch with tracing is the one without it, traced. -/
theorem lockstep_dispatchJournal (h : Lockstep ctx.realm answer answer' inner inner')
    (start : ProtoId) (q : Request) {m m' : Machine} (hstore : m'.store = m.store) :
    (ctx.tracing true).dispatchJournal answer' inner' start q m' =
      ((ctx.tracing false).dispatchJournal answer inner start q m).flatMap
        (·.traced ctx.realm) := by
  have hend := ctx.lockstep_dispatch h start q hstore
  rw [dispatchJournal, dispatchJournal, hend.outcome, hend.store, journal_dispatch_loud,
    dispatch_quiet, h.journal_run _ hstore, List.flatMap_append, List.append_assoc]
  congr 1
  have hask := h.run (q.askAll (ctx.candidates start q)) hstore
  generalize (q.askAll (ctx.candidates start q)).run answer m = ending at hask ⊢
  generalize (q.askAll (ctx.candidates start q)).run answer' m' = ending' at hask ⊢
  cases hask with
  | returned a hafter =>
    -- the event shows the key in the store in which the dispatch ends
    simp only [Ending.returned_continued, Request.outcome, Ending.outcome, Ending.machine,
      List.flatMap_singleton, Incident.traced, Incident.trace?, Request.isMiss_answered, hafter]
    split <;> rfl
  | threw e hafter => rfl
  | exhausted hafter => rfl

theorem lockstep_answer (depth : Nat) :
    Lockstep ctx.realm ((ctx.tracing false).answer depth) ((ctx.tracing true).answer depth)
      ((ctx.tracing false).journal depth) ((ctx.tracing true).journal depth) := by
  induction depth with
  | zero => exact ⟨fun q m m' hstore => .exhausted hstore, fun q m m' _ => rfl⟩
  | succ depth ih =>
    -- some queries are dispatches; the others are the same programs in both contexts
    constructor
    · intro q m m' hstore
      cases q with
      | read this key cast =>
        exact ctx.lockstep_dispatch ih _ (.read this key cast) hstore
      | write this key value cast =>
        exact ctx.lockstep_dispatch ih _ (.write this key value cast) hstore
      | invoke this key args cast =>
        exact ctx.lockstep_dispatch ih _ (.invoke this key args cast) hstore
      | delete this key =>
        exact ctx.lockstep_dispatch ih _ (.delete this key) hstore
      | through server q =>
        cases server with
        | prototype id => exact ctx.lockstep_dispatch ih id q hstore
        | _ => exact ih.run _ hstore
      | _ => exact ih.run _ hstore
    · intro q m m' hstore
      cases q with
      | read this key cast =>
        exact ctx.lockstep_dispatchJournal ih _ (.read this key cast) hstore
      | write this key value cast =>
        exact ctx.lockstep_dispatchJournal ih _ (.write this key value cast) hstore
      | invoke this key args cast =>
        exact ctx.lockstep_dispatchJournal ih _ (.invoke this key args cast) hstore
      | delete this key =>
        exact ctx.lockstep_dispatchJournal ih _ (.delete this key) hstore
      | through server q =>
        cases server with
        | prototype id => exact ctx.lockstep_dispatchJournal ih id q hstore
        | _ => exact ih.journal_run _ hstore
      | _ => exact ih.journal_run _ hstore

theorem lockstep_play (depth : Nat) (turns : List Turn) {m m' : Machine}
    (hstore : m'.store = m.store) :
    ((ctx.tracing true).play depth turns m').outcomes =
        ((ctx.tracing false).play depth turns m).outcomes ∧
      ((ctx.tracing true).play depth turns m').machine.store =
        ((ctx.tracing false).play depth turns m).machine.store ∧
      ((ctx.tracing true).play depth turns m').journal =
        ((ctx.tracing false).play depth turns m).journal.flatMap (·.traced ctx.realm) := by
  induction turns generalizing m m' with
  | nil => exact ⟨rfl, hstore, rfl⟩
  | cons turn rest ih =>
    have h := ctx.lockstep_answer depth
    have hend := ctx.lockstep_dispatch h turn.start turn.request hstore
    have hjournal := ctx.lockstep_dispatchJournal h turn.start turn.request hstore
    -- the steps that are left begin with the same store again
    obtain ⟨houtcomes, hstores, hjournals⟩ := ih hend.store
    refine ⟨List.cons_eq_cons.2 ⟨hend.outcome, houtcomes⟩, hstores, ?_⟩
    simp only [play, List.flatMap_append, ← hjournal]
    exact congrArg _ hjournals

end Context

/-- Steps with and without tracing have the same outcomes and lead to the same store, from any
machine. In both runs the log grows by the events of the journal. With tracing the journal is the
one without it, with one event more right before each end of a dispatch that missed and no other. -/
theorem tracing_only_observes (ctx : Context) (depth : Nat) (turns : List Turn) (m : Machine) :
    let quiet := (ctx.tracing false).play depth turns m
    let loud := (ctx.tracing true).play depth turns m
    loud.outcomes = quiet.outcomes ∧
      loud.machine.store = quiet.machine.store ∧
      loud.journal = quiet.journal.flatMap (·.traced ctx.realm) ∧
      quiet.machine.log.toList = m.log.toList ++ quiet.journal.filterMap Incident.event? ∧
      loud.machine.log.toList = m.log.toList ++ loud.journal.filterMap Incident.event? := by
  intro quiet loud
  have hstep := ctx.lockstep_play depth turns (rfl : m.store = m.store)
  exact ⟨hstep.1, hstep.2.1, hstep.2.2, Context.log_play _ depth turns m,
    Context.log_play _ depth turns m⟩

end ScriptRealm
