import ScriptRealm.Proofs.Collection.Coherence
import ScriptRealm.Proofs.Dispatch.Methods

/-!
# Keys that a receiver holds

The method `hasOwnProperty` looks at the receiver itself, while reads go to the capabilities along
its chain. Both find the members of lists and maps by the same keys. A pair holds two positions,
which no capability reads.
-/

namespace ScriptRealm

/-! ## What capabilities read -/

/-- A capability along the chain of a receiver reads a value by a key. -/
def Context.ChainReads (ctx : Context) (answer : (q : Query) → Machine → Ending q.Answer)
    (m : Machine) (this key v : Value) : Prop :=
  ∃ level ∈ ctx.realm.chain (ctx.classify this), ∃ c, level.capability? = some c ∧
    ∃ m', (c.read this key .identity).run answer m = .returned (.found v) m'

namespace Capability

variable {answer : (q : Query) → Machine → Ending q.Answer} {m m' : Machine} {key v : Value}

theorem member?_of_run_read {h : Handle}
    (hrun : (h.adapter.read h.value key .identity).run answer m = .returned (.found v) m') :
    (m.store.content h).member? key = some v := by
  rw [(read_adapter_actsAs h key .identity m).run] at hrun
  cases hmember : (m.store.content h).member? key with
  | none =>
    rw [hmember] at hrun
    cases hrun
  | some w =>
    rw [hmember] at hrun
    cases hrun
    rfl

/-- Each of the two capabilities for collections reads members of its own kind only. -/
theorem exists_member_of_run_read {c : Capability} {this : Value} (hc : c = sequence ∨ c = mapping)
    (hrun : (c.read this key .identity).run answer m = .returned (.found v) m') :
    ∃ h : Handle, this = h.value ∧ (m.store.content h).member? key = some v := by
  rcases hc with rfl | rfl
  · cases this with
    | list l => exact ⟨.list l, rfl, member?_of_run_read (h := .list l) hrun⟩
    | _ => cases hrun
  · cases this with
    | map r => exact ⟨.map r, rfl, member?_of_run_read (h := .map r) hrun⟩
    | _ => cases hrun

end Capability

namespace Context

variable (hostObjectName : String) (host : Host) (converter : Converter) (config : Config)
  (answer : (q : Query) → Machine → Ending q.Answer) (m : Machine)

/-- The capabilities of the core realm read the members of lists and maps. -/
theorem chainReads_iff (this key v : Value) :
    (core hostObjectName host converter config).ChainReads answer m this key v ↔
      ∃ h : Handle, this = h.value ∧ (m.store.content h).member? key = some v := by
  constructor
  · rintro ⟨level, hlevel, c, hc, m', hrun⟩
    obtain ⟨role, rfl⟩ := Realm.exists_role hostObjectName (Realm.mem_of_mem_chain hlevel)
    have hadapter : c = .sequence ∨ c = .mapping := by
      cases role <;> cases hc <;> first | exact .inl rfl | exact .inr rfl
    exact Capability.exists_member_of_run_read hadapter hrun
  · rintro ⟨h, rfl, hmember⟩
    have hchain := chain_collection hostObjectName host converter config h
    have hcapability : (Builtin.prototype hostObjectName h.role).capability? = some h.adapter := by
      cases h <;> rfl
    have hread := (Capability.read_adapter_actsAs h key .identity m).run answer
    rw [hmember] at hread
    refine ⟨Builtin.prototype hostObjectName h.role, ?_, h.adapter, hcapability, m, hread⟩
    rw [hchain]
    exact List.mem_cons_self

end Context

/-! ## What the method tests -/

namespace Builtin.Object

/-- The receiver is a pair, and the key stands for one of its two positions. -/
def PairHolds (this key : Value) : Prop :=
  ∃ first second i, this = .pair first second ∧ key.index? = some i ∧ i < 2

/-- A list or map holds the keys of its members. -/
theorem holdsKey_value (s : Store) (h : Handle) (key : Value) :
    holdsKey s h.value key = ((s.content h).member? key).isSome := by
  cases h with
  | list l =>
    rw [Handle.value, holdsKey, Store.content, Content.member?]
    cases key.index? with
    | none => rfl
    | some i =>
      have hposition : ((s.list l)[i]?.isSome = true) ↔ i < (s.list l).length := by simp
      rw [Option.any_some, Option.bind_some, Bool.eq_iff_iff, hposition, decide_eq_true_iff]
  | map r =>
    rw [Handle.value, holdsKey, Store.content, Content.member?]
    cases key.memberName? with
    | none => rfl
    | some name => simp [Assoc.contains, Assoc.find?_eq_lookup]

theorem holdsKey_pair_iff (s : Store) (first second key : Value) :
    holdsKey s (.pair first second) key = true ↔ PairHolds (.pair first second) key := by
  simp [holdsKey, PairHolds, Option.any_eq_true]

theorem not_pairHolds_value (h : Handle) (key : Value) : ¬PairHolds h.value key := by
  rintro ⟨first, second, i, hpair, -⟩
  cases h <;> cases hpair

/-- A key is held if it addresses a member of a list or map, or a position of a pair. -/
theorem holdsKey_iff (s : Store) (this key : Value) :
    holdsKey s this key = true ↔
      (∃ v, ∃ h : Handle, this = h.value ∧ (s.content h).member? key = some v) ∨
        PairHolds this key := by
  constructor
  · intro hholds
    -- of the shapes that the method tests, only the pair has no handle
    have hmember : ∀ h : Handle, this = h.value → ∃ v, (s.content h).member? key = some v := by
      rintro h rfl
      rwa [holdsKey_value, Option.isSome_iff_exists] at hholds
    cases this with
    | list l =>
      obtain ⟨v, hv⟩ := hmember (.list l) rfl
      exact .inl ⟨v, .list l, rfl, hv⟩
    | map r =>
      obtain ⟨v, hv⟩ := hmember (.map r) rfl
      exact .inl ⟨v, .map r, rfl, hv⟩
    | pair first second => exact .inr ((holdsKey_pair_iff s first second key).1 hholds)
    | _ => cases hholds
  · rintro (⟨v, h, rfl, hv⟩ | hpair)
    · rw [holdsKey_value, hv, Option.isSome_some]
    · obtain ⟨first, second, -, rfl, -⟩ := id hpair
      exact (holdsKey_pair_iff s first second key).2 hpair

end Builtin.Object

/-! ## Ownership and access -/

namespace Context

variable (hostObjectName : String) (host : Host) (converter : Converter) (config : Config)
  (answer : (q : Query) → Machine → Ending q.Answer) (m : Machine)

/-- The method is there for every receiver without own members, and only tests the key. -/
theorem run_hasOwnProperty (hkey : config.tableKey = .member) {this : Value}
    (hown : (core hostObjectName host converter config).ownMembers? this = none)
    (args : List Value) :
    ((core hostObjectName host converter config).invoke this (.string "hasOwnProperty") args
      .identity).run answer m =
      .returned (.found (.boolean
        (Builtin.Object.holdsKey m.store this (Value.argument args 0)))) m := by
  obtain ⟨role, hrole⟩ := exists_role_classify hostObjectName host converter config this
  have hcall : ∃ rest, Builtin.callables hostObjectName role "hasOwnProperty" =
      .method Builtin.Object.hasOwnProperty :: rest := by
    cases role <;> exact ⟨_, rfl⟩
  obtain ⟨rest, hcall⟩ := hcall
  exact run_invoke_method answer m hkey hown hrole hcall args

/-- No capability reads a pair, and no table has a member without a name. -/
theorem run_read_pair (hkey : config.tableKey = .member) (first second : Value) {key : Value}
    (hname : key.memberName? = none) (cast : Cast) :
    ∃ m', ((core hostObjectName host converter config).read (.pair first second) key cast).run
        answer m = .returned .missing m' ∧ m'.store = m.store := by
  let ctx := core hostObjectName host converter config
  let q : Request := .read (.pair first second) key cast
  have hchain : ctx.realm.chain (ctx.classify (.pair first second)) =
      [Builtin.prototype hostObjectName .array, Builtin.prototype hostObjectName .object] :=
    Realm.chain_core hostObjectName .array
  have hmode : ctx.config.tableKey = .member := hkey
  have hentries : ∀ level, ctx.levelEntries level q.operation q.key = [] := by
    intro level
    rw [levelEntries, tableName?, hmode]
    exact List.filterMap_eq_nil_iff.2 fun table _ => by rw [Request.key, hname, Option.bind_none]
  have hmiss : ∀ level ∈ ctx.realm.chain (ctx.classify (.pair first second)),
      (level.capability?.getD .passive).serve q = pure q.miss := by
    rw [hchain, List.forall_mem_cons, List.forall_mem_singleton]
    exact ⟨rfl, rfl⟩
  have hask : (q.askAll (ctx.candidates (ctx.classify (.pair first second)) q)).run answer m =
      .returned q.miss m := by
    have htables : ctx.tableMembers (ctx.classify (.pair first second)) q.operation q.key = [] :=
      List.flatMap_eq_nil_iff.2 fun level _ => hentries level
    rw [askAll_candidates_of_miss rfl hmiss, htables, List.map_nil, Request.askAll_nil,
      Program.run_pure]
  obtain ⟨m', hmissed, hstore⟩ := run_dispatch_missed hask
  exact ⟨m', hmissed, hstore⟩

end Context

/-- On a receiver without own members, `hasOwnProperty` finds a truth value for every key. It is
true exactly if a capability along the chain of the receiver reads something by the key, or the
receiver is a pair and the key stands for one of its two positions. What a capability reads by a key
is what a read of that key finds, after its conversion. A read of a pair by one of its positions
misses. -/
theorem hasOwnProperty_iff_reads (hostObjectName : String) (host : Host) (converter : Converter)
    (config : Config) (hkey : config.tableKey = .member)
    (answer : (q : Query) → Machine → Ending q.Answer) (m : Machine) {this : Value}
    (hown : (Context.core hostObjectName host converter config).ownMembers? this = none)
    (args : List Value) :
    let ctx := Context.core hostObjectName host converter config
    let key := Value.argument args 0
    ∃ held : Bool,
      (ctx.invoke this (.string "hasOwnProperty") args .identity).run answer m =
        .returned (.found (.boolean held)) m ∧
      (held = true ↔ (∃ v, ctx.ChainReads answer m this key v) ∨
        Builtin.Object.PairHolds this key) ∧
      (∀ v, ctx.ChainReads answer m this key v →
        ∀ cast, (ctx.read this key cast).run answer m =
          (cast.ending answer v m).andThen fun w m => .returned (.found w) m) ∧
      (Builtin.Object.PairHolds this key →
        ∀ cast, ∃ m', (ctx.read this key cast).run answer m = .returned .missing m' ∧
          m'.store = m.store) := by
  intro ctx key
  have hreads := Context.chainReads_iff hostObjectName host converter config answer m this key
  refine ⟨_, Context.run_hasOwnProperty hostObjectName host converter config answer m hkey hown
    args, ?_, fun v hv cast => ?_, fun hpair cast => ?_⟩
  · rw [Builtin.Object.holdsKey_iff]
    exact or_congr_left (exists_congr fun v => (hreads v).symm)
  · obtain ⟨h, rfl, hmember⟩ := (hreads v).1 hv
    exact Context.run_read_stored hostObjectName host converter config answer m hmember cast
  · obtain ⟨first, second, i, rfl, hindex, -⟩ := hpair
    obtain ⟨n, hn⟩ := Value.exists_number_of_index? hindex
    have hname : key.memberName? = none := congrArg Value.memberName? hn
    exact Context.run_read_pair hostObjectName host converter config answer m hkey first second
      hname cast

/-- A list of one item holds the position of the item, where reading finds it. -/
theorem hasOwnProperty_iff_reads_singleton :
    let ctx := Context.core "HostObject" .empty .standard .standard
    let m : Machine := ⟨⟨#[[.int 5]], #[]⟩, #[]⟩
    let list : Value := .list ⟨0⟩
    ctx.ownMembers? list = none ∧
      (ctx.invoke list (.string "hasOwnProperty") [.int 0] .identity).run (ctx.answer 1) m =
        .returned (.found (.boolean true)) m ∧
      (ctx.read list (.int 0) .identity).run (ctx.answer 1) m = .returned (.found (.int 5)) m := by
  intro ctx m list
  obtain ⟨held, hrun, hheld, hread, -⟩ := hasOwnProperty_iff_reads "HostObject" .empty .standard
    .standard rfl (ctx.answer 1) m (rfl : ctx.ownMembers? list = none) [.int 0]
  have hreads : ctx.ChainReads (ctx.answer 1) m list (.int 0) (.int 5) :=
    (Context.chainReads_iff "HostObject" .empty .standard .standard _ m _ _ _).2
      ⟨.list ⟨0⟩, rfl, rfl⟩
  obtain rfl : held = true := hheld.2 (.inl ⟨_, hreads⟩)
  exact ⟨rfl, hrun, hread _ hreads .identity⟩

/-- A pair holds its first position, although no capability reads it and reading it misses. -/
theorem pair_holds_unread_position :
    let ctx := Context.core "HostObject" .empty .standard .standard
    let pair : Value := .pair (.int 1) (.string "b")
    (ctx.invoke pair (.string "hasOwnProperty") [.int 0] .identity).run (ctx.answer 1) default =
        .returned (.found (.boolean true)) default ∧
      (∀ v, ¬ctx.ChainReads (ctx.answer 1) default pair (.int 0) v) ∧
      ∃ m', (ctx.read pair (.int 0) .identity).run (ctx.answer 1) default =
        .returned .missing m' := by
  intro ctx pair
  refine ⟨?_, fun v hv => ?_, ?_⟩
  · rw [Context.run_hasOwnProperty "HostObject" .empty .standard .standard _ _ rfl rfl]
    rfl
  · obtain ⟨h, hpair, -⟩ :=
      (Context.chainReads_iff "HostObject" .empty .standard .standard _ _ _ _ v).1 hv
    exact Builtin.Object.not_pairHolds_value h (.int 0) ⟨_, _, 0, hpair.symm, rfl, by decide⟩
  · obtain ⟨m', hmiss, -⟩ := Context.run_read_pair "HostObject" .empty .standard .standard
      (ctx.answer 1) default rfl (.int 1) (.string "b") (rfl : (Value.int 0).memberName? = none)
      .identity
    exact ⟨m', hmiss⟩

end ScriptRealm
