import ScriptRealm.Proofs.Core
import ScriptRealm.Proofs.Dispatch.Walk
import ScriptRealm.Proofs.Queries

/-!
# What programs ask

Most callbacks ask for views, texts and conversions at most, and never for an operation on members
or a constructor, nor for what the name tables of a prototype hold. Such a program is blind to the
members that are registered: it goes the same way in every context that gives those few queries the
same answers.
-/

namespace ScriptRealm

variable {α β : Type}

/-! ## What a program can ask -/

namespace Program

/-- Whatever a program gets for its queries, all that it asks is allowed. -/
def AsksOnly (allowed : Query → Prop) : Program α → Prop
  | .done _ => True
  | .fail _ => True
  | .perform .getStore next => ∀ s, (next s).AsksOnly allowed
  | .perform (.setStore _) next => (next ()).AsksOnly allowed
  | .perform (.emit _) next => (next ()).AsksOnly allowed
  | .perform (.ask q) next => allowed q ∧ ∀ r, (next r).AsksOnly allowed

section

variable {allowed : Query → Prop}

/-- Programs that ask what is allowed do so in sequence, over lists and as alternatives. -/
theorem AsksOnly.bind {p : Program α} {f : α → Program β} (hp : p.AsksOnly allowed)
    (hf : ∀ a, (f a).AsksOnly allowed) : (p.bind f).AsksOnly allowed := by
  induction p with
  | done a => exact hf a
  | fail e => trivial
  | perform e next ih =>
    cases e with
    | getStore => exact fun s => ih s (hp s)
    | setStore s => exact ih () hp
    | emit e => exact ih () hp
    | ask q => exact ⟨hp.1, fun r => ih r (hp.2 r)⟩

theorem asksOnly_ask {q : Query} (h : allowed q) : (ask q).AsksOnly allowed := by
  refine ⟨h, fun r => ?_⟩
  cases r <;> trivial

theorem AsksOnly.mapM {visit : α → Program β} (h : ∀ a, (visit a).AsksOnly allowed)
    (members : List α) : (members.mapM visit).AsksOnly allowed := by
  induction members with
  | nil => trivial
  | cons a rest ih =>
    rw [List.mapM_cons]
    exact (h a).bind fun _ => ih.bind fun _ => trivial

theorem AsksOnly.onMiss {p : Program Lookup} {next : Unit → Program Lookup}
    (hp : p.AsksOnly allowed) (hnext : (next ()).AsksOnly allowed) :
    (p.onMiss next).AsksOnly allowed :=
  hp.bind fun r => by cases r <;> trivial

theorem AsksOnly.onRefusal {p : Program Bool} {next : Unit → Program Bool}
    (hp : p.AsksOnly allowed) (hnext : (next ()).AsksOnly allowed) :
    (p.onRefusal next).AsksOnly allowed :=
  hp.bind fun r => by cases r <;> trivial

/-- What a program asks in a run is allowed. -/
theorem AsksOnly.of_mem_queries {p : Program α} (hp : p.AsksOnly allowed)
    {answer : (q : Query) → Machine → Ending q.Answer} {m : Machine} {q : Query}
    (hq : q ∈ p.queries answer m) : allowed q := by
  induction p generalizing m with
  | done a => cases hq
  | fail e => cases hq
  | perform e next ih =>
    cases e with
    | getStore => exact ih m.store (hp m.store) hq
    | setStore s => exact ih () hp hq
    | emit e => exact ih () hp hq
    | ask q' =>
      rw [queries] at hq
      rcases List.mem_cons.1 hq with rfl | hq
      · exact hp.1
      · cases hanswer : answer q' m with
        | returned a m' =>
          rw [hanswer] at hq
          exact ih (.ok a) (hp.2 _) hq
        | threw e m' =>
          rw [hanswer] at hq
          exact ih (.error e) (hp.2 _) hq
        | exhausted m' =>
          rw [hanswer] at hq
          cases hq

/-- What may be asked can be widened. -/
theorem AsksOnly.mono {allowed' : Query → Prop} (h : ∀ q, allowed q → allowed' q) {p : Program α}
    (hp : p.AsksOnly allowed) : p.AsksOnly allowed' := by
  induction p with
  | done a => trivial
  | fail e => trivial
  | perform e next ih =>
    cases e with
    | getStore => exact fun s => ih s (hp s)
    | setStore s => exact ih () hp
    | emit e => exact ih () hp
    | ask q => exact ⟨h q hp.1, fun r => ih r (hp.2 r)⟩

/-- A program goes the same way under answers that agree on what it can ask. -/
theorem run_of_asksOnly {answer answer' : (q : Query) → Machine → Ending q.Answer}
    (h : ∀ q, allowed q → answer' q = answer q) {p : Program α} (hp : p.AsksOnly allowed)
    (m : Machine) : p.run answer' m = p.run answer m := by
  induction p generalizing m with
  | done a => rfl
  | fail e => rfl
  | perform e next ih =>
    cases e with
    | getStore => exact ih m.store (hp m.store) m
    | setStore s => exact ih () hp { m with store := s }
    | emit e => exact ih () hp { m with log := m.log.push e }
    | ask q =>
      simp only [run, h q hp.1]
      cases answer q m with
      | returned a m' => exact ih (.ok a) (hp.2 _) m'
      | threw e m' => exact ih (.error e) (hp.2 _) m'
      | exhausted m' => rfl

end

end Program

/-! ## Sorts of queries -/

/-- Operations on members and constructors are served by dispatch, and no other query is. -/
def Query.dispatches : Query → Bool
  | .read .. => true
  | .write .. => true
  | .invoke .. => true
  | .delete .. => true
  | .construct .. => true
  | .through (.prototype _) _ => true
  | _ => false

/-- Whether the answer tells what the name tables of a prototype hold. -/
def Reflection.consultsTables : Reflection → Bool
  | .member .. => true
  | .ownKeys _ => true
  | .allKeys _ => true
  | .describe _ => true
  | _ => false

/-- Whether a query looks into the name tables of a prototype without a dispatch. -/
def Query.consultsTables : Query → Bool
  | .through (.member ..) _ => true
  | .reflect r => r.consultsTables
  | _ => false

/-- A query that is neither served by dispatch nor looks into name tables. -/
def Query.isBlind (q : Query) : Bool :=
  !q.dispatches && !q.consultsTables

theorem Query.dispatches_of_isBlind {q : Query} (h : q.isBlind) : q.dispatches = false := by
  unfold isBlind at h
  simp_all

/-- A program that puts blind queries only. -/
def Program.IsBlind (p : Program α) : Prop :=
  p.AsksOnly (·.isBlind)

/-- A cast only asks for its conversion. -/
theorem Cast.isBlind_apply (cast : Cast) (v : Value) :
    (cast.apply v).IsBlind := by
  cases cast with
  | identity => trivial
  | toScript => exact Program.asksOnly_ask rfl
  | toHost hint => exact Program.asksOnly_ask rfl

namespace Accessor

/-- A member whose callback asks what is allowed. -/
def AsksOnly (allowed : Query → Prop) : Accessor → Prop
  | .property get => ∀ this, (get this).AsksOnly allowed
  | .method call => ∀ this args, (call this args).AsksOnly allowed
  | .staticProperty get => get.AsksOnly allowed
  | .staticValue _ => True
  | .staticMethod call => ∀ args, (call args).AsksOnly allowed

/-- A member that asks what is allowed does so where more is allowed. -/
theorem AsksOnly.mono {allowed allowed' : Query → Prop} (h : ∀ q, allowed q → allowed' q)
    {a : Accessor} (ha : a.AsksOnly allowed) : a.AsksOnly allowed' := by
  cases a with
  | property get => exact fun this => (ha this).mono h
  | method call => exact fun this args => (ha this args).mono h
  | staticProperty get => exact Program.AsksOnly.mono h ha
  | staticValue v => trivial
  | staticMethod call => exact fun args => (ha args).mono h

/-- A member whose callback is blind. -/
def IsBlind (a : Accessor) : Prop :=
  a.AsksOnly (·.isBlind)

theorem isBlind_foundBy {p : Program Value} (h : p.IsBlind) (cast : Cast) :
    (foundBy cast p).IsBlind :=
  h.bind fun v => (cast.isBlind_apply v).bind fun _ => trivial

theorem IsBlind.read {a : Accessor} (h : a.IsBlind) (this : Value) (cast : Cast) :
    (a.read this cast).IsBlind := by
  cases a with
  | property get => exact isBlind_foundBy (h this) cast
  | staticProperty get => exact isBlind_foundBy h cast
  | staticValue v =>
    have hpure : (pure v : Program Value).IsBlind := trivial
    exact isBlind_foundBy hpure cast
  | method call => trivial
  | staticMethod call => trivial

theorem IsBlind.invoke {a : Accessor} (h : a.IsBlind) (this : Value) (args : List Value)
    (cast : Cast) : (a.invoke this args cast).IsBlind := by
  cases a with
  | method call => exact isBlind_foundBy (h this args) cast
  | staticMethod call => exact isBlind_foundBy (h args) cast
  | property get => trivial
  | staticProperty get => trivial
  | staticValue v => trivial

end Accessor

namespace Capability

/-- A capability that asks what is allowed, whatever it is to serve. -/
def AsksOnly (allowed : Query → Prop) (c : Capability) : Prop :=
  ∀ q : Request, (c.serve q).AsksOnly allowed

/-- A capability that serves every request blindly. -/
def IsBlind (c : Capability) : Prop :=
  c.AsksOnly (·.isBlind)

theorem isBlind_passive : passive.IsBlind := by
  intro q
  rw [serve_passive]
  trivial

/-- An accessor that is blind is so when it stands for a capability. -/
theorem isBlind_accessor {a : Accessor} (h : a.IsBlind) : a.capability.IsBlind := by
  intro q
  cases q with
  | read this key cast => exact h.read this cast
  | invoke this key args cast => exact h.invoke this args cast
  | write this key value cast => trivial
  | delete this key => trivial

end Capability

/-- A candidate that serves every request blindly. -/
def Candidate.IsBlind : Candidate → Prop
  | .own c => c.IsBlind
  | .level c => c.IsBlind
  | .entry a => a.IsBlind

/-- A blind candidate serves every request blindly. -/
theorem Candidate.IsBlind.serve {c : Candidate} (h : c.IsBlind) (q : Request) :
    (c.serve q).IsBlind := by
  cases c with
  | own c => exact h q
  | level c => exact h q
  | entry a => exact Capability.isBlind_accessor h q

namespace Request

theorem isBlind_orElse {q : Request} {p : Program q.Answer} {next : Unit → Program q.Answer}
    (hp : p.IsBlind) (hnext : (next ()).IsBlind) : (q.orElse p next).IsBlind := by
  cases q with
  | read => exact Program.AsksOnly.onMiss hp hnext
  | write => exact Program.AsksOnly.onRefusal hp hnext
  | invoke => exact Program.AsksOnly.onMiss hp hnext
  | delete => exact Program.AsksOnly.onMiss hp hnext

/-- Blind candidates are asked one after the other without looking at tables. -/
theorem isBlind_askAll {q : Request} {candidates : List Candidate}
    (h : ∀ c ∈ candidates, c.IsBlind) : (q.askAll candidates).IsBlind := by
  induction candidates with
  | nil => trivial
  | cons c rest ih =>
    rw [askAll_cons]
    exact isBlind_orElse ((h c List.mem_cons_self).serve q)
      (ih fun c' hc' => h c' (List.mem_cons_of_mem c hc'))

end Request

/-- A prototype whose members, constructor, capability and suppliers of views ask what is allowed.
-/
structure Prototype.AsksOnly (allowed : Query → Prop) (p : Prototype) : Prop where
  member : ∀ table name a, (p.table table).find? name = some a → a.AsksOnly allowed
  constructor : ∀ a, p.constructor? = some a → a.AsksOnly allowed
  capability : ∀ c, p.capability? = some c → c.AsksOnly allowed
  supplier : ∀ view owner this, (p.supplier view owner this).AsksOnly allowed

namespace Context

/-- All host callbacks, suppliers of views and conversions of a context ask what is allowed. -/
structure AsksOnly (allowed : Query → Prop) (ctx : Context) : Prop where
  prototype : ∀ p ∈ ctx.realm.prototypes, p.AsksOnly allowed
  own : ∀ v c, ctx.ownMembers? v = some c → c.AsksOnly allowed
  drain : ∀ i, (ctx.drain i).AsksOnly allowed
  toScript : ∀ v, (ctx.converter.toScript v).AsksOnly allowed
  toHost : ∀ v hint, (ctx.converter.toHost v hint).AsksOnly allowed

/-- In a context that never dispatches, nobody but the caller asks for an operation on members or
for a constructor. -/
def NeverDispatches (ctx : Context) : Prop :=
  ctx.AsksOnly (·.dispatches = false)

/-- In a blind context, nobody but the caller asks for an operation on members or for a constructor,
or looks into name tables. -/
def IsBlind (ctx : Context) : Prop :=
  ctx.AsksOnly (·.isBlind)

variable {ctx ctx' : Context}

theorem AsksOnly.mono {allowed allowed' : Query → Prop} (hallowed : ∀ q, allowed q → allowed' q)
    (h : ctx.AsksOnly allowed) : ctx.AsksOnly allowed' where
  prototype p hp :=
    have hasks := h.prototype p hp
    { member := fun table name a ha => (hasks.member table name a ha).mono hallowed
      constructor := fun a ha => (hasks.constructor a ha).mono hallowed
      capability := fun c hc q => (hasks.capability c hc q).mono hallowed
      supplier := fun view owner this => (hasks.supplier view owner this).mono hallowed }
  own v c hc q := (h.own v c hc q).mono hallowed
  drain i := (h.drain i).mono hallowed
  toScript v := (h.toScript v).mono hallowed
  toHost v hint := (h.toHost v hint).mono hallowed

/-- Contexts that are blind never dispatch; the converse fails. -/
theorem IsBlind.neverDispatches (h : ctx.IsBlind) : ctx.NeverDispatches :=
  AsksOnly.mono (fun _ => Query.dispatches_of_isBlind) h

/-- All candidates of a blind context are blind. -/
theorem IsBlind.candidates (h : ctx.IsBlind) (start : ProtoId) (q : Request) :
    ∀ c ∈ ctx.candidates start q, c.IsBlind := by
  intro c hc
  rcases List.mem_append.1 hc with hown | hlevel
  · obtain ⟨own, hsome, rfl⟩ := List.mem_map.1 hown
    exact h.own q.this own (Option.mem_toList.1 hsome)
  · obtain ⟨level, hchain, hmem⟩ := List.mem_flatMap.1 hlevel
    have hasks := h.prototype level (Realm.mem_of_mem_chain hchain)
    rcases List.mem_append.1 hmem with hcapability | hentry
    · obtain ⟨capability, hsome, rfl⟩ := List.mem_map.1 hcapability
      exact hasks.capability capability (Option.mem_toList.1 hsome)
    · obtain ⟨a, ha, rfl⟩ := List.mem_map.1 hentry
      obtain ⟨table, htable, hfind⟩ := List.mem_filterMap.1 ha
      obtain ⟨name, -, hname⟩ := Option.bind_eq_some_iff.1 hfind
      rw [level.tables_eq_map] at htable
      obtain ⟨t, -, rfl⟩ := List.mem_map.1 htable
      exact hasks.member t name a hname

/-- A dispatch does not dispatch again: its candidates do not, and the trace asks nothing. -/
theorem IsBlind.dispatch (h : ctx.IsBlind) (start : ProtoId) (q : Request) :
    (ctx.dispatch start q).IsBlind := by
  rw [dispatch_eq_askAll]
  refine Request.isBlind_orElse (Request.isBlind_askAll (h.candidates start q)) ?_
  have htrace : (ctx.traceMiss q.operation start q.key).IsBlind := by
    unfold traceMiss
    split
    · exact fun _ => trivial
    · trivial
  exact htrace.bind fun _ => trivial

theorem mem_prototypes_of_get? {r : Realm} {id : ProtoId} {p : Prototype} (h : r.get? id = some p) :
    p ∈ r.prototypes :=
  Array.mem_of_getElem? h

theorem IsBlind.construct (h : ctx.IsBlind) (proto : ProtoId) (args : List Value)
    (cast : Cast) : (ctx.construct proto args cast).IsBlind := by
  unfold Context.construct
  cases hget : (ctx.realm.get? proto).bind (·.constructor?) with
  | none => trivial
  | some a =>
    obtain ⟨p, hp, ha⟩ := Option.bind_eq_some_iff.1 hget
    have hblind : a.IsBlind := (h.prototype p (mem_prototypes_of_get? hp)).constructor a ha
    exact hblind.invoke .undefined args cast

theorem IsBlind.viewThrough (h : ctx.IsBlind) (proto : ProtoId) (view : View)
    (this : Value) : (ctx.viewThrough proto view this).IsBlind := by
  unfold Context.viewThrough
  cases hget : ctx.realm.get? proto with
  | none => exact fun _ => trivial
  | some p => exact (h.prototype p (mem_prototypes_of_get? hget)).supplier view _ this

theorem IsBlind.serve_capability (h : ctx.IsBlind) (id : ProtoId) (q : Request) :
    (ctx.serveThrough (.capability id) q).IsBlind := by
  rw [serveThrough]
  cases hget : ctx.capability? id with
  | none => exact Capability.isBlind_passive q
  | some c =>
    obtain ⟨p, hp, hc⟩ := Option.bind_eq_some_iff.1 hget
    exact (h.prototype p (mem_prototypes_of_get? hp)).capability c hc q

theorem isBlind_coerce (strategy : Prototype → Coercion α) (generic : Coercion α)
    (this : Value) : (ctx.coerce strategy generic this).IsBlind :=
  fun _ => trivial

/-- Answering a question about the realm asks nothing. -/
theorem isBlind_reflect {r : Reflection} : (ctx.reflect r).IsBlind := by
  cases r with
  | displayText | numberOf | truthOf => exact fun _ => trivial
  | _ => trivial

/-- What serves a blind query is blind. -/
theorem IsBlind.handle (h : ctx.IsBlind) {q : Query} (hq : q.isBlind) :
    (ctx.handle q).IsBlind := by
  cases q with
  | read | write | invoke | delete | construct => cases hq
  | through server q =>
    cases server with
    | prototype | member => cases hq
    | capability id => exact h.serve_capability id q
  | reflect r => exact isBlind_reflect
  | view view this => exact h.viewThrough _ view this
  | viewThrough proto view this =>
    rw [Context.handle]
    cases ctx.realm.resolve? proto with
    | none => exact fun _ => trivial
    | some id => exact h.viewThrough id view this
  | displayText this => exact isBlind_coerce _ _ this
  | numberOf this => exact isBlind_coerce _ _ this
  | truthOf this => exact isBlind_coerce _ _ this
  | toScript v => exact h.toScript v
  | toHost v hint => exact h.toHost v hint
  | drain i => exact h.drain i

/-- Two contexts that serve blind queries by the same programs answer them the same way, whatever
they do with operations on members. -/
theorem IsBlind.answer_eq (h : ctx.IsBlind)
    (hhandle : ∀ q, q.isBlind → ctx'.handle q = ctx.handle q) (depth : Nat) (q : Query)
    (hq : q.isBlind) : ctx'.answer depth q = ctx.answer depth q := by
  induction depth generalizing q with
  | zero => rfl
  | succ depth ih =>
    funext m
    rw [answer, answer, hhandle q hq]
    exact Program.run_of_asksOnly ih (h.handle hq) m

/-- A blind program goes the same way in both contexts. -/
theorem IsBlind.run_eq (h : ctx.IsBlind)
    (hhandle : ∀ q, q.isBlind → ctx'.handle q = ctx.handle q) (depth : Nat)
    {p : Program α} (hp : p.IsBlind) (m : Machine) :
    ctx'.run depth p m = ctx.run depth p m :=
  Program.run_of_asksOnly (h.answer_eq hhandle depth) hp m

end Context

end ScriptRealm
