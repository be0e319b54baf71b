import ScriptRealm.Proofs.Dispatch.Walk

/-!
# Requests that are served alike

When two requests meet the same candidates and each candidate serves both alike, dispatch serves
both alike. They may differ in the key, and then a traced miss shows the difference, but nothing
else does.
-/

namespace ScriptRealm

/-! ## Programs that serve two requests alike -/

namespace Request

/-- How a request ends, with the machine as it then is. -/
def finish (q : Request) (ending : Ending q.Answer) : Outcome × Machine :=
  (q.outcome ending, ending.machine)

/-- Two programs end alike, each for its own request. -/
def Alike (answer : (q : Query) → Machine → Ending q.Answer) (q q' : Request)
    (p : Program q.Answer) (p' : Program q'.Answer) : Prop :=
  ∀ m, q.finish (p.run answer m) = q'.finish (p'.run answer m)

variable {answer : (q : Query) → Machine → Ending q.Answer}

/-- An alternative goes by how the first program ends. -/
theorem finish_orElse (q : Request) (p : Program q.Answer) (next : Unit → Program q.Answer)
    (m : Machine) :
    q.finish ((q.orElse p next).run answer m) =
      let first := q.finish (p.run answer m)
      if first.1.isMiss then q.finish ((next ()).run answer first.2) else first := by
  rw [run_orElse]
  cases p.run answer m with
  | returned a m' =>
    simp only [Ending.returned_andThen, finish, outcome, Ending.outcome, isMiss_answered,
      Ending.machine]
    cases q.isMiss a <;> rfl
  | threw e m' => rfl
  | exhausted m' => rfl

section

/-! Two requests of one operation are alike if their programs run alike. -/

variable {this key this' key' : Value} {cast cast' : Cast} {p p' : Program Lookup}

/-- Programs that run alike serve two requests alike, whatever the operation. -/
theorem alike_read (h : ∀ m, p.run answer m = p'.run answer m) :
    Alike answer (.read this key cast) (.read this' key' cast') p p' :=
  fun m => congrArg (finish (.read this key cast)) (h m)

theorem alike_write {value value' : Value} {p p' : Program Bool}
    (h : ∀ m, p.run answer m = p'.run answer m) :
    Alike answer (.write this key value cast) (.write this' key' value' cast') p p' :=
  fun m => congrArg (finish (.write this key value cast)) (h m)

theorem alike_invoke {args args' : List Value} (h : ∀ m, p.run answer m = p'.run answer m) :
    Alike answer (.invoke this key args cast) (.invoke this' key' args' cast') p p' :=
  fun m => congrArg (finish (.invoke this key args cast)) (h m)

theorem alike_delete (h : ∀ m, p.run answer m = p'.run answer m) :
    Alike answer (.delete this key) (.delete this' key') p p' :=
  fun m => congrArg (finish (.delete this key)) (h m)

end

variable {q q' : Request}

theorem alike_miss (h : q.operation = q'.operation) :
    Alike answer q q' (pure q.miss) (pure q'.miss) := by
  intro m
  cases q <;> cases q' <;> first | rfl | cases h

/-- Alternatives are alike if both of their parts are. -/
theorem Alike.orElse {p : Program q.Answer} {p' : Program q'.Answer}
    {next : Unit → Program q.Answer} {next' : Unit → Program q'.Answer}
    (hp : Alike answer q q' p p') (hnext : Alike answer q q' (next ()) (next' ())) :
    Alike answer q q' (q.orElse p next) (q'.orElse p' next') := by
  intro m
  simp only [finish_orElse, hp m]
  split
  · exact hnext _
  · rfl

/-- Candidates that each serve two requests alike do so one after the other. -/
theorem alike_askAll (hop : q.operation = q'.operation) {candidates : List Candidate}
    (h : ∀ c ∈ candidates, Alike answer q q' (c.serve q) (c.serve q')) :
    Alike answer q q' (q.askAll candidates) (q'.askAll candidates) := by
  induction candidates with
  | nil => exact alike_miss hop
  | cons c rest ih =>
    rw [askAll_cons, askAll_cons]
    exact (h c List.mem_cons_self).orElse (ih fun c' hc' => h c' (List.mem_cons_of_mem c hc'))

end Request

/-! ## Dispatch -/

namespace Context

variable (ctx : Context) (answer : (q : Query) → Machine → Ending q.Answer) (start : ProtoId)

/-- Requests by the same name on receivers with the same members have the same candidates. -/
theorem candidates_congr {q q' : Request} (hown : ctx.ownMembers? q'.this = ctx.ownMembers? q.this)
    (hop : q'.operation = q.operation) (hname : q'.key.memberName? = q.key.memberName?) :
    ctx.candidates start q' = ctx.candidates start q := by
  have hlevel : ctx.levelCandidates q' = ctx.levelCandidates q := by
    funext level
    simp only [levelCandidates, levelEntries, tableName?, hop, hname]
  rw [candidates, candidates, hown, hlevel]

/-- The candidates for a receiver without own members are the capabilities and the members of tables
along the chain. -/
theorem forall_mem_candidates {P : Candidate → Prop} {q : Request}
    (hown : ctx.ownMembers? q.this = none)
    (hlevel : ∀ p ∈ ctx.realm.chain start, ∀ c, p.capability? = some c → P (.level c))
    (hentry : ∀ p ∈ ctx.realm.chain start, ∀ a ∈ ctx.levelEntries p q.operation q.key,
      P (.entry a)) : ∀ c ∈ ctx.candidates start q, P c := by
  rw [candidates, hown, Option.toList_none, List.map_nil, List.nil_append]
  intro c hc
  obtain ⟨p, hp, hmem⟩ := List.mem_flatMap.1 hc
  rcases List.mem_append.1 hmem with hcapability | htable
  · obtain ⟨capability, hsome, rfl⟩ := List.mem_map.1 hcapability
    exact hlevel p hp capability (Option.mem_toList.1 hsome)
  · obtain ⟨a, ha, rfl⟩ := List.mem_map.1 htable
    exact hentry p hp a ha

/-- Two requests have the same outcome and leave the same store behind. The logs are the same too,
where no miss is traced or the two name the same key. -/
structure Interchanges (q q' : Request) (m : Machine) : Prop where
  outcome : q.outcome ((ctx.dispatch start q).run answer m) =
    q'.outcome ((ctx.dispatch start q').run answer m)
  store : ((ctx.dispatch start q).run answer m).machine.store =
    ((ctx.dispatch start q').run answer m).machine.store
  log : ctx.config.traceMisses = false ∨ q.key = q'.key →
    ((ctx.dispatch start q).run answer m).machine.log =
      ((ctx.dispatch start q').run answer m).machine.log

/-- What the end of a dispatch adds to how its candidates ended. -/
def close (operation : Operation) (key : Value) (finish : Outcome × Machine) : Outcome × Machine :=
  if finish.1.isMiss && ctx.config.traceMisses then
    let event : Event :=
      .missed operation (finish.2.store.describe key) (ctx.realm.nameOf start)
    (finish.1, { finish.2 with log := finish.2.log.push event })
  else finish

/-- Closing an operation leaves a line at most; outcome and store stay. -/
@[simp] theorem outcome_close (operation : Operation) (key : Value) (finish : Outcome × Machine) :
    (ctx.close start operation key finish).1 = finish.1 := by
  unfold close
  split <;> rfl

@[simp] theorem store_close (operation : Operation) (key : Value) (finish : Outcome × Machine) :
    (ctx.close start operation key finish).2.store = finish.2.store := by
  unfold close
  split <;> rfl

/-- Without tracing, closing leaves nothing. -/
theorem close_of_quiet (h : ctx.config.traceMisses = false) (operation : Operation) (key : Value)
    (finish : Outcome × Machine) : ctx.close start operation key finish = finish := by
  rw [close, h, Bool.and_false]
  rfl

/-- An operation finishes as its candidates do, and is then closed. -/
theorem finish_conclude (q : Request) (ending : Ending q.Answer) :
    q.finish (ctx.conclude start q ending) =
      ctx.close start q.operation q.key (q.finish ending) := by
  cases ending with
  | returned a m =>
    have hmiss := q.isMiss_answered a
    simp only [conclude, close, Request.finish, Request.outcome, Ending.outcome, Ending.machine,
      hmiss]
    cases q.isMiss a && ctx.config.traceMisses <;> rfl
  | threw e m => rfl
  | exhausted m => rfl

variable {ctx answer start}

/-- Requests for the same candidates can be interchanged if each candidate serves them alike. -/
theorem interchanges_of_alike {q q' : Request} (hop : q.operation = q'.operation)
    (hcandidates : ctx.candidates start q' = ctx.candidates start q)
    (h : ∀ c ∈ ctx.candidates start q, Request.Alike answer q q' (c.serve q) (c.serve q'))
    (m : Machine) : ctx.Interchanges answer start q q' m := by
  have hask := Request.alike_askAll hop h m
  have hfinish : q.finish ((ctx.dispatch start q).run answer m) =
      ctx.close start q.operation q.key
        (q'.finish ((q'.askAll (ctx.candidates start q)).run answer m)) := by
    rw [run_dispatch, finish_conclude, hask]
  have hfinish' : q'.finish ((ctx.dispatch start q').run answer m) =
      ctx.close start q'.operation q'.key
        (q'.finish ((q'.askAll (ctx.candidates start q)).run answer m)) := by
    rw [run_dispatch, finish_conclude, hcandidates]
  constructor
  case outcome =>
    have houtcome := (congrArg Prod.fst hfinish).trans (outcome_close ..)
    have houtcome' := (congrArg Prod.fst hfinish').trans (outcome_close ..)
    exact houtcome.trans houtcome'.symm
  case store =>
    have hstore := (congrArg (·.2.store) hfinish).trans (store_close ..)
    have hstore' := (congrArg (·.2.store) hfinish').trans (store_close ..)
    exact hstore.trans hstore'.symm
  case log =>
    rintro (hquiet | hkey)
    · rw [close_of_quiet ctx start hquiet] at hfinish hfinish'
      exact congrArg (·.2.log) (hfinish.trans hfinish'.symm)
    · rw [hop, hkey] at hfinish
      exact congrArg (·.2.log) (hfinish.trans hfinish'.symm)

end Context

end ScriptRealm
