import ScriptRealm.Proofs.Collection.Views

/-!
# Calls of methods

No capability of the core realm takes calls. So a call goes to the tables along the chain of the
receiver, and the first method of the name answers it.
-/

namespace ScriptRealm

/-! ## Levels that leave a request to the tables -/

namespace Context

/-- Where the capabilities of all levels miss, the tables answer. -/
theorem askAll_levels_of_miss (ctx : Context) (q : Request) {levels : List Prototype}
    (h : ∀ level ∈ levels, (level.capability?.getD .passive).serve q = pure q.miss) :
    q.askAll (levels.flatMap (ctx.levelCandidates q)) =
      q.askAll
        ((levels.flatMap fun level => ctx.levelEntries level q.operation q.key).map .entry) := by
  induction levels with
  | nil => rfl
  | cons level rest ih =>
    rw [ctx.askAll_levels_cons, h level List.mem_cons_self, Request.miss_orElse,
      ih fun l hl => h l (List.mem_cons_of_mem level hl), List.flatMap_cons, List.map_append,
      Request.askAll_append]

theorem askAll_candidates_of_miss {ctx : Context} {start : ProtoId} {q : Request}
    (hown : ctx.ownMembers? q.this = none)
    (h : ∀ level ∈ ctx.realm.chain start,
      (level.capability?.getD .passive).serve q = pure q.miss) :
    q.askAll (ctx.candidates start q) =
      q.askAll ((ctx.tableMembers start q.operation q.key).map .entry) := by
  rw [candidates, hown, Option.toList_none, List.map_nil, List.nil_append,
    ctx.askAll_levels_of_miss q h, tableMembers]

end Context

/-! ## Methods of the core realm -/

namespace Builtin

theorem serve_invoke_prototype (hostObjectName : String) (role : Role) (this key : Value)
    (args : List Value) (cast : Cast) :
    let q : Request := .invoke this key args cast
    ((prototype hostObjectName role).capability?.getD .passive).serve q = pure q.miss := by
  cases role <;> rfl

/-- The functions of a name that values of a role meet, their own prototype's first. -/
def callables (hostObjectName : String) (role : Role) (name : String) : List Accessor :=
  (prototype hostObjectName role).invocable name ++
    (roleParent role).toList.flatMap fun _ => (prototype hostObjectName .object).invocable name

/-- The handles of the core realm are those of the roles. -/
theorem exists_roleId {id : ProtoId} (h : id.index < 7) : ∃ role, id = roleId role := by
  rw [← id.ofPosition_index]
  generalize id.index = i at h
  match i, h with
  | 0, _ => exact ⟨.object, rfl⟩
  | 1, _ => exact ⟨.array, rfl⟩
  | 2, _ => exact ⟨.string, rfl⟩
  | 3, _ => exact ⟨.number, rfl⟩
  | 4, _ => exact ⟨.boolean, rfl⟩
  | 5, _ => exact ⟨.hostClass, rfl⟩
  | 6, _ => exact ⟨.hostObject, rfl⟩

end Builtin

namespace Context

variable (hostObjectName : String) (host : Host) (converter : Converter) (config : Config)

/-- Whatever a host object declares, it is served by a prototype with a role. -/
theorem exists_role_classify (v : Value) :
    ∃ role, (core hostObjectName host converter config).classify v = Builtin.roleId role := by
  let ctx := core hostObjectName host converter config
  by_cases hobject : ∃ o, v = .object o
  · obtain ⟨o, rfl⟩ := hobject
    cases hdeclared : ctx.declared? o with
    | none =>
      have hclassify : ctx.classify (.object o) = ctx.realm.wellKnown.of .hostObject :=
        congrArg (Option.getD · _) hdeclared
      exact ⟨.hostObject, hclassify.trans (Realm.wellKnown_core hostObjectName .hostObject)⟩
    | some id =>
      have hclassify : ctx.classify (.object o) = id := congrArg (Option.getD · _) hdeclared
      have hsize : ctx.realm.size = 7 := Realm.size_core hostObjectName
      have hlt : id.index < 7 := by
        simp only [declared?, Option.bind_eq_bind, Option.bind_eq_some_iff] at hdeclared
        obtain ⟨-, -, -, -, known, -, hknown⟩ := hdeclared
        split at hknown
        · obtain rfl := Option.some.inj hknown
          omega
        · cases hknown
      obtain ⟨role, hrole⟩ := Builtin.exists_roleId hlt
      exact ⟨role, hclassify.trans hrole⟩
  · exact ⟨_, classify_core hostObjectName host converter config fun o ho => hobject ⟨o, ho⟩⟩

section

variable {hostObjectName host converter config} {this : Value} {role : Role}

/-- A call by a name meets the functions of that name. -/
theorem tableMembers_invoke (hkey : config.tableKey = .member)
    (hrole : (core hostObjectName host converter config).classify this = Builtin.roleId role)
    (name : String) :
    let ctx := core hostObjectName host converter config
    ctx.tableMembers (ctx.classify this) .invoke (.string name) =
      Builtin.callables hostObjectName role name := by
  intro ctx
  have hchain : ctx.realm.chain (Builtin.roleId role) =
      Builtin.prototype hostObjectName role ::
        (Builtin.roleParent role).toList.map fun _ => Builtin.prototype hostObjectName .object :=
    Realm.chain_core hostObjectName role
  have hentries : ∀ level, ctx.levelEntries level .invoke (.string name) = level.invocable name :=
    fun level => ctx.levelEntries_invoke hkey level name
  rw [tableMembers, hrole, hchain, List.flatMap_cons, hentries, Builtin.callables, List.flatMap_map]
  simp only [hentries]

/-- A call on a receiver without own members has what the first method in the tables returns for its
answer. -/
theorem run_invoke_of_tableMembers (answer : (q : Query) → Machine → Ending q.Answer) (m : Machine)
    (hown : (core hostObjectName host converter config).ownMembers? this = none) {key : Value}
    {call : Value → List Value → Program Value} {rest : List Accessor}
    (htable : let ctx := core hostObjectName host converter config
      ctx.tableMembers (ctx.classify this) .invoke key = .method call :: rest)
    (args : List Value) :
    ((core hostObjectName host converter config).invoke this key args .identity).run answer m =
      ((call this args).run answer m).andThen fun v m => .returned (.found v) m := by
  let ctx := core hostObjectName host converter config
  let q : Request := .invoke this key args .identity
  have hown' : ctx.ownMembers? q.this = none := hown
  have hmiss : ∀ level ∈ ctx.realm.chain (ctx.classify this),
      (level.capability?.getD .passive).serve q = pure q.miss := by
    intro level hlevel
    obtain ⟨role, rfl⟩ := Realm.exists_role hostObjectName (Realm.mem_of_mem_chain hlevel)
    exact Builtin.serve_invoke_prototype hostObjectName role this key args .identity
  have htable' : ctx.tableMembers (ctx.classify this) q.operation q.key = .method call :: rest :=
    htable
  -- the method answers, so that nothing is asked after it
  have hask : q.askAll (ctx.candidates (ctx.classify this) q) =
      Accessor.foundBy .identity (call this args) := by
    rw [askAll_candidates_of_miss hown' hmiss, htable', List.map_cons, Request.askAll_cons]
    have hanswered : ∀ next, q.orElse (Accessor.foundBy .identity (call this args)) next =
        Accessor.foundBy .identity (call this args) := Accessor.foundBy_onMiss _ _
    exact hanswered _
  refine (ctx.run_dispatch (ctx.classify this) q answer m).trans ?_
  rw [hask, Accessor.run_foundBy]
  cases (call this args).run answer m <;> rfl

/-- Where tables are looked up by the names of members, a call by a name runs the first method of
that name. -/
theorem run_invoke_method (answer : (q : Query) → Machine → Ending q.Answer) (m : Machine)
    (hkey : config.tableKey = .member)
    (hown : (core hostObjectName host converter config).ownMembers? this = none)
    (hrole : (core hostObjectName host converter config).classify this = Builtin.roleId role)
    {name : String} {call : Value → List Value → Program Value} {rest : List Accessor}
    (hcall : Builtin.callables hostObjectName role name = .method call :: rest)
    (args : List Value) :
    ((core hostObjectName host converter config).invoke this (.string name) args .identity).run
        answer m =
      ((call this args).run answer m).andThen fun v m => .returned (.found v) m :=
  run_invoke_of_tableMembers answer m hown ((tableMembers_invoke hkey hrole name).trans hcall) args

end

end Context

end ScriptRealm
