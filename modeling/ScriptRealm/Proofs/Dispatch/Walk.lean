import ScriptRealm.Proofs.Dispatch.Request

/-!
# Dispatch is a walk over candidates

The reference for dispatch asks the candidates one at a time, each with the request as the caller
made it, and stops at the first that does not miss. The four operations have the same outcomes and
the same effects as this walk, however the queries of the candidates are answered. At most one
callback of a name table runs on the way, because a callback that runs always answers.
-/

namespace ScriptRealm

/-- How a walk goes: the candidates that were asked, and how the last of them ended it. -/
structure Course (α : Type) where
  asked : List Candidate
  ending : Ending α

namespace Request

variable (answer : (q : Query) → Machine → Ending q.Answer) (q : Request)

/-- Asks candidates one at a time until one does not miss. -/
def walk : List Candidate → Machine → Course q.Answer
  | [], m => ⟨[], .returned q.miss m⟩
  | c :: rest, m =>
    match (c.serve q).run answer m with
    | .returned a m =>
      if q.isMiss a then
        let course := walk rest m
        ⟨c :: course.asked, course.ending⟩
      else ⟨[c], .returned a m⟩
    | .threw e m => ⟨[c], .threw e m⟩
    | .exhausted m => ⟨[c], .exhausted m⟩

end Request

/-- What dispatch does in the end: if nothing has answered, and the configuration asks for it, there
is an event. -/
def Context.conclude (ctx : Context) (start : ProtoId) (q : Request) :
    Ending q.Answer → Ending q.Answer
  | .returned a m =>
    if q.isMiss a && ctx.config.traceMisses then
      let event : Event := .missed q.operation (m.store.describe q.key) (ctx.realm.nameOf start)
      .returned a { m with log := m.log.push event }
    else .returned a m
  | .threw e m => .threw e m
  | .exhausted m => .exhausted m

/-! ## Candidates in sequence -/

namespace Request

variable (answer : (q : Query) → Machine → Ending q.Answer) (q : Request)

/-- The program that asks candidates one after the other. -/
def askAll (candidates : List Candidate) : Program q.Answer :=
  candidates.foldr (fun c next => q.orElse (c.serve q) fun _ => next) (pure q.miss)

@[simp] theorem askAll_nil : q.askAll [] = pure q.miss := rfl

theorem askAll_cons (c : Candidate) (rest : List Candidate) :
    q.askAll (c :: rest) = q.orElse (c.serve q) fun _ => q.askAll rest := rfl

theorem askAll_singleton (c : Candidate) : q.askAll [c] = c.serve q :=
  q.orElse_miss (c.serve q)

theorem askAll_append (first rest : List Candidate) :
    q.askAll (first ++ rest) = q.orElse (q.askAll first) fun _ => q.askAll rest := by
  induction first with
  | nil => simp
  | cons c first ih => rw [List.cons_append, askAll_cons, askAll_cons, ih, orElse_assoc]

/-- Asking a capability that may be left out is asking one that only misses. -/
theorem askAll_capability (c? : Option Capability) (wrap : Capability → Candidate)
    (hwrap : ∀ c, (wrap c).serve q = c.serve q) :
    q.askAll (c?.toList.map wrap) = (c?.getD .passive).serve q := by
  cases c? with
  | none => simp
  | some c => simp [askAll_cons, hwrap]

/-! ## One candidate of a walk -/

variable {answer q}

theorem walk_of_missed {c : Candidate} {a : q.Answer} {m m' : Machine}
    (hrun : (c.serve q).run answer m = .returned a m') (hmiss : q.isMiss a = true)
    (rest : List Candidate) :
    q.walk answer (c :: rest) m =
      ⟨c :: (q.walk answer rest m').asked, (q.walk answer rest m').ending⟩ := by
  rw [walk, hrun]
  exact if_pos hmiss

theorem walk_of_answered {c : Candidate} {a : q.Answer} {m m' : Machine}
    (hrun : (c.serve q).run answer m = .returned a m') (hmiss : q.isMiss a = false)
    (rest : List Candidate) :
    q.walk answer (c :: rest) m = ⟨[c], .returned a m'⟩ := by
  rw [walk, hrun]
  exact if_neg (by simp [hmiss])

theorem walk_of_threw {c : Candidate} {e : ScriptError} {m m' : Machine}
    (hrun : (c.serve q).run answer m = .threw e m') (rest : List Candidate) :
    q.walk answer (c :: rest) m = ⟨[c], .threw e m'⟩ := by
  rw [walk, hrun]

theorem walk_of_exhausted {c : Candidate} {m m' : Machine}
    (hrun : (c.serve q).run answer m = .exhausted m') (rest : List Candidate) :
    q.walk answer (c :: rest) m = ⟨[c], .exhausted m'⟩ := by
  rw [walk, hrun]

/-- Either a candidate misses and the walk goes on after it, or it is the last one asked. -/
theorem walk_cons_cases (answer : (q : Query) → Machine → Ending q.Answer) (q : Request)
    (c : Candidate) (rest : List Candidate) (m : Machine) :
    (∃ a m', (c.serve q).run answer m = .returned a m' ∧ q.isMiss a = true ∧
      q.walk answer (c :: rest) m =
        ⟨c :: (q.walk answer rest m').asked, (q.walk answer rest m').ending⟩) ∨
    q.walk answer (c :: rest) m = ⟨[c], (c.serve q).run answer m⟩ := by
  cases hrun : (c.serve q).run answer m with
  | returned a m' =>
    cases hmiss : q.isMiss a with
    | true => exact .inl ⟨a, m', rfl, hmiss, walk_of_missed hrun hmiss rest⟩
    | false => exact .inr (walk_of_answered hrun hmiss rest)
  | threw e m' => exact .inr (walk_of_threw hrun rest)
  | exhausted m' => exact .inr (walk_of_exhausted hrun rest)

/-! ## Whole walks -/

/-- Running the program is taking the walk. -/
theorem run_askAll (answer : (q : Query) → Machine → Ending q.Answer) (q : Request)
    (candidates : List Candidate) (m : Machine) :
    (q.askAll candidates).run answer m = (q.walk answer candidates m).ending := by
  induction candidates generalizing m with
  | nil => rfl
  | cons c rest ih =>
    rw [askAll_cons, run_orElse]
    cases hrun : (c.serve q).run answer m with
    | returned a m' =>
      rw [Ending.returned_andThen]
      cases hmiss : q.isMiss a with
      | true => rw [if_pos rfl, ih, walk_of_missed hrun hmiss]
      | false => rw [if_neg (by simp), walk_of_answered hrun hmiss]
    | threw e m' => rw [Ending.threw_andThen, walk_of_threw hrun]
    | exhausted m' => rw [Ending.exhausted_andThen, walk_of_exhausted hrun]

/-- The candidates that are asked come first among all candidates. -/
theorem asked_prefix (answer : (q : Query) → Machine → Ending q.Answer) (q : Request)
    (candidates : List Candidate) (m : Machine) :
    (q.walk answer candidates m).asked <+: candidates := by
  induction candidates generalizing m with
  | nil => exact List.prefix_refl []
  | cons c rest ih =>
    rcases walk_cons_cases answer q c rest m with ⟨a, m', -, -, hwalk⟩ | hwalk
    · rw [hwalk]
      exact (List.prefix_cons_inj c).2 (ih m')
    · rw [hwalk]
      exact List.prefix_append [c] rest

end Request

/-! ## Members of tables -/

namespace Accessor

theorem foundBy_onMiss (cast : Cast) (p : Program Value) (next : Unit → Program Lookup) :
    (foundBy cast p).onMiss next = foundBy cast p :=
  (Program.bind_assoc _ _ _).trans (congrArg _ (funext fun _ => Program.bind_assoc _ _ _))

/-- What a callback gives is found, so it is never a miss. -/
theorem foundBy_ne_missing {answer : (q : Query) → Machine → Ending q.Answer} {cast : Cast}
    {p : Program Value} {r : Lookup} {m m' : Machine}
    (hrun : (foundBy cast p).run answer m = .returned r m') : r ≠ .missing := by
  simp only [foundBy, Program.run_bind_eq] at hrun
  cases hp : p.run answer m with
  | returned v m₁ =>
    rw [hp, Ending.returned_andThen] at hrun
    cases hc : (cast.apply v).run answer m₁ with
    | returned w m₂ =>
      rw [hc, Ending.returned_andThen, Program.run_pure] at hrun
      rintro rfl
      cases hrun
    | threw e m₂ => simp [hc] at hrun
    | exhausted m₂ => simp [hc] at hrun
  | threw e m₁ => simp [hp] at hrun
  | exhausted m₁ => simp [hp] at hrun

/-- A member whose callback runs does not miss. -/
theorem isMiss_of_callback {answer : (q : Query) → Machine → Ending q.Answer} {a : Accessor}
    {q : Request} {r : q.Answer} {m m' : Machine} (hcall : (a.callback? q).isSome = true)
    (hrun : (a.capability.serve q).run answer m = .returned r m') : q.isMiss r = false := by
  cases q with
  | read this key cast =>
    cases a <;> simp [callback?] at hcall <;> exact decide_eq_false (foundBy_ne_missing hrun)
  | write this key value cast => cases a <;> simp [callback?] at hcall
  | invoke this key args cast =>
    cases a <;> simp [callback?] at hcall <;> exact decide_eq_false (foundBy_ne_missing hrun)
  | delete this key => cases a <;> simp [callback?] at hcall

/-- A member that can be called answers, so nothing is asked after it. -/
theorem invoke_onMiss {a : Accessor} (h : a.isCallable = true) (this : Value) (args : List Value)
    (cast : Cast) (next : Unit → Program Lookup) :
    (a.invoke this args cast).onMiss next = a.invoke this args cast := by
  cases a <;> first | exact foundBy_onMiss _ _ next | simp [isCallable] at h

/-- A member that cannot be called misses. -/
theorem invoke_of_not_callable {a : Accessor} (h : a.isCallable = false) (this : Value)
    (args : List Value) (cast : Cast) : a.invoke this args cast = pure .missing := by
  cases a <;> first | rfl | simp [isCallable] at h

/-- The first member that can be called answers as the members do that are asked in turn. -/
theorem invoke_find?_eq_askAll (this key : Value) (args : List Value) (cast : Cast)
    (next : Unit → Program Lookup) (entries : List Accessor) :
    (match entries.find? (·.isCallable) with
      | some a => a.invoke this args cast
      | none => next ()) =
      ((Request.invoke this key args cast).askAll (entries.map .entry)).onMiss next := by
  induction entries with
  | nil => rfl
  | cons a rest ih =>
    have hask : (Request.invoke this key args cast).askAll ((a :: rest).map .entry) =
        (a.invoke this args cast).onMiss fun _ =>
          (Request.invoke this key args cast).askAll (rest.map .entry) := rfl
    rw [hask]
    cases hcall : a.isCallable with
    | true =>
      rw [List.find?_cons_of_pos hcall, invoke_onMiss hcall, invoke_onMiss hcall]
    | false =>
      -- a member that is passed over would have missed
      rw [List.find?_cons_of_neg (by simp [hcall]), invoke_of_not_callable hcall, ih]
      rfl

end Accessor

/-! ## The four operations -/

namespace Context

variable (ctx : Context)

/-- The tables are read by name, in their order. -/
theorem tableEntries_eq {members : Prototype → String → List Accessor} {operation : Operation}
    (h : ∀ (level : Prototype) (name : String),
      members level name = (level.tables operation).filterMap (·.find? name))
    (level : Prototype) (key : Value) :
    ctx.tableEntries members level key = ctx.levelEntries level operation key := by
  unfold tableEntries levelEntries tableName?
  cases ctx.config.tableKey with
  | prototypeName => exact h level level.name
  | member =>
    cases key.memberName? with
    | none => simp
    | some name => exact h level name

theorem readable_eq_tables (level : Prototype) (name : String) :
    level.readable name = (level.tables .read).filterMap (·.find? name) := by
  unfold Prototype.readable Prototype.tables
  cases hi : level.properties.find? name <;> cases hs : level.staticProperties.find? name <;>
    simp [hi, hs]

theorem invocable_eq_tables (level : Prototype) (name : String) :
    level.invocable name = (level.tables .invoke).filterMap (·.find? name) := by
  unfold Prototype.invocable Prototype.tables
  cases hi : level.functions.find? name <;> cases hs : level.staticFunctions.find? name <;>
    simp [hi, hs]

/-- Where tables are looked up by the names of members, a call by a name meets the members of that
name. -/
theorem levelEntries_invoke (hkey : ctx.config.tableKey = .member) (level : Prototype)
    (name : String) : ctx.levelEntries level .invoke (.string name) = level.invocable name := by
  rw [invocable_eq_tables, levelEntries, tableName?, hkey]
  rfl

/-- At a level the capability is asked before the tables. -/
theorem askAll_levelCandidates (q : Request) (level : Prototype) :
    q.askAll (ctx.levelCandidates q level) =
      q.orElse ((level.capability?.getD .passive).serve q) fun _ =>
        q.askAll ((ctx.levelEntries level q.operation q.key).map .entry) := by
  rw [levelCandidates, Request.askAll_append, Request.askAll_capability q _ _ fun _ => rfl]

/-- A level is asked before the levels above it. -/
theorem askAll_levels_cons (q : Request) (level : Prototype) (rest : List Prototype) :
    q.askAll ((level :: rest).flatMap (ctx.levelCandidates q)) =
      q.orElse ((level.capability?.getD .passive).serve q) fun _ =>
        q.orElse (q.askAll ((ctx.levelEntries level q.operation q.key).map .entry)) fun _ =>
          q.askAll (rest.flatMap (ctx.levelCandidates q)) := by
  rw [List.flatMap_cons, Request.askAll_append, askAll_levelCandidates, Request.orElse_assoc]

theorem readFirst_eq_askAll (this key : Value) (cast : Cast) (entries : List Accessor) :
    readFirst this cast entries = (Request.read this key cast).askAll (entries.map .entry) := by
  induction entries with
  | nil => rfl
  | cons a rest ih => rw [readFirst, ih]; rfl

theorem readLevels_eq_askAll (this key : Value) (cast : Cast) (levels : List Prototype) :
    ctx.readLevels this key cast levels =
      (Request.read this key cast).askAll
        (levels.flatMap (ctx.levelCandidates (.read this key cast))) := by
  induction levels with
  | nil => rfl
  | cons level rest ih =>
    rw [askAll_levels_cons, readLevels, ih, readFirst_eq_askAll this key,
      tableEntries_eq ctx readable_eq_tables]
    rfl

theorem invokeLevels_eq_askAll (this key : Value) (args : List Value) (cast : Cast)
    (levels : List Prototype) :
    ctx.invokeLevels this key args cast levels =
      (Request.invoke this key args cast).askAll
        (levels.flatMap (ctx.levelCandidates (.invoke this key args cast))) := by
  induction levels with
  | nil => rfl
  | cons level rest ih =>
    rw [askAll_levels_cons, invokeLevels, ih, tableEntries_eq ctx invocable_eq_tables]
    have htables := Accessor.invoke_find?_eq_askAll this key args cast
      (fun _ => (Request.invoke this key args cast).askAll
        (rest.flatMap (ctx.levelCandidates (.invoke this key args cast))))
      (ctx.levelEntries level .invoke key)
    exact congrArg (fun p => ((level.capability?.getD .passive).invoke this key args cast).onMiss
      fun _ => p) htables

theorem writeLevels_eq_askAll (this key value : Value) (cast : Cast) (levels : List Prototype) :
    writeLevels this key value cast levels =
      (Request.write this key value cast).askAll
        (levels.flatMap (ctx.levelCandidates (.write this key value cast))) := by
  induction levels with
  | nil => rfl
  | cons level rest ih => rw [askAll_levels_cons, writeLevels, ih]; rfl

theorem deleteLevels_eq_askAll (this key : Value) (levels : List Prototype) :
    deleteLevels this key levels =
      (Request.delete this key).askAll
        (levels.flatMap (ctx.levelCandidates (.delete this key))) := by
  induction levels with
  | nil => rfl
  | cons level rest ih => rw [askAll_levels_cons, deleteLevels, ih]; rfl

/-- Dispatch asks all candidates in turn, and leaves an event if all of them have missed. -/
theorem dispatch_eq_askAll (start : ProtoId) (q : Request) :
    ctx.dispatch start q =
      q.orElse (q.askAll (ctx.candidates start q)) fun _ => do
        ctx.traceMiss q.operation start q.key
        return q.miss := by
  rw [candidates, Request.askAll_append, Request.askAll_capability q _ _ fun _ => rfl,
    Request.orElse_assoc]
  cases q with
  | read this key cast => rw [dispatch, readFrom, readLevels_eq_askAll]; rfl
  | write this key value cast => rw [dispatch, writeFrom, ctx.writeLevels_eq_askAll]; rfl
  | invoke this key args cast => rw [dispatch, invokeFrom, invokeLevels_eq_askAll]; rfl
  | delete this key => rw [dispatch, deleteFrom, ctx.deleteLevels_eq_askAll]; rfl

theorem run_traceMiss (answer : (q : Query) → Machine → Ending q.Answer) (start : ProtoId)
    (q : Request) (m : Machine) :
    (do ctx.traceMiss q.operation start q.key; return q.miss : Program q.Answer).run answer m =
      ctx.conclude start q (.returned q.miss m) := by
  unfold traceMiss conclude
  simp only [Request.isMiss_miss, Bool.true_and]
  cases ctx.config.traceMisses <;> rfl

end Context

/-! ## Callbacks -/

/-- A callback that runs answers, so no candidate is asked after it, and no second callback runs. -/
theorem Request.callbacks_asked_le_one (answer : (q : Query) → Machine → Ending q.Answer)
    (q : Request) (candidates : List Candidate) (m : Machine) :
    (q.walk answer candidates m).asked.countP (·.runsCallback q) ≤ 1 := by
  induction candidates generalizing m with
  | nil => simp [walk]
  | cons c rest ih =>
    rcases walk_cons_cases answer q c rest m with ⟨a, m', hrun, hmiss, hwalk⟩ | hwalk
    · -- the candidate missed, so it ran no callback, and the rest of the walk counts
      have hquiet : c.runsCallback q = false := by
        cases c with
        | own c => rfl
        | level c => rfl
        | entry e =>
          refine Bool.eq_false_iff.2 fun hcall => ?_
          have hanswer := Accessor.isMiss_of_callback hcall hrun
          rw [hmiss] at hanswer
          cases hanswer
      rw [hwalk, List.countP_cons_of_neg (by simp [hquiet])]
      exact ih m'
    · rw [hwalk, List.countP_singleton]
      split <;> omega

/-- A run of dispatch is a run over its candidates, and perhaps an event at the end. -/
theorem Context.run_dispatch (ctx : Context) (start : ProtoId) (q : Request)
    (answer : (q : Query) → Machine → Ending q.Answer) (m : Machine) :
    (ctx.dispatch start q).run answer m =
      ctx.conclude start q ((q.askAll (ctx.candidates start q)).run answer m) := by
  rw [ctx.dispatch_eq_askAll, Request.run_orElse]
  cases (q.askAll (ctx.candidates start q)).run answer m with
  | returned a m' =>
    rw [Ending.returned_andThen]
    cases hmiss : q.isMiss a with
    | true => rw [if_pos rfl, ctx.run_traceMiss, q.eq_miss_of_isMiss hmiss]
    | false =>
      rw [if_neg (by simp), Context.conclude, hmiss]
      rfl
  | threw e m' => rfl
  | exhausted m' => rfl

/-- Dispatch from any prototype, known to the realm or not, has the outcome and the effects of the
walk over its candidates; no callback of a table runs besides the one that answers. -/
theorem dispatch_eq_walk (ctx : Context) (start : ProtoId) (q : Request)
    (answer : (q : Query) → Machine → Ending q.Answer) (m : Machine) :
    let course := q.walk answer (ctx.candidates start q) m
    (ctx.dispatch start q).run answer m = ctx.conclude start q course.ending ∧
      course.asked <+: ctx.candidates start q ∧
      course.asked.countP (·.runsCallback q) ≤ 1 := by
  refine ⟨?_, q.asked_prefix answer _ m, q.callbacks_asked_le_one answer _ m⟩
  rw [ctx.run_dispatch, Request.run_askAll]

end ScriptRealm
