import ScriptRealm.Proofs.Collection.Plain

/-!
# Collections refine the reference

In the core realm with the standard converter, acts on lists and maps have the answers and the
effects that the reference gives them: each act does, and so does each sequence of acts.
-/

namespace ScriptRealm

/-! ## Endings in terms of plain stores -/

namespace Ending

variable {α β : Type}

/-- The outcome of a run and the collections after it, without the log. -/
def plain : Ending α → Option (Except ScriptError α × PlainStore)
  | .returned a m => some (.ok a, m.store.plain)
  | .threw e m => some (.error e, m.store.plain)
  | .exhausted _ => none

theorem eq_returned_of_plain {ending : Ending α} {a : α} {p : PlainStore}
    (h : ending.plain = some (.ok a, p)) : ∃ m, ending = .returned a m ∧ m.store.plain = p := by
  cases ending with
  | returned b m =>
    cases h
    exact ⟨m, rfl, rfl⟩
  | threw e m => cases h
  | exhausted m => cases h

theorem plain_andThen_returned (ending : Ending α) (f : α → β) :
    (ending.andThen fun a m => .returned (f a) m).plain =
      ending.plain.map fun x => (x.1.map f, x.2) := by
  cases ending <;> rfl

end Ending

/-- An event changes no collection. -/
theorem Context.plain_conclude (ctx : Context) (start : ProtoId) (q : Request)
    (ending : Ending q.Answer) : (ctx.conclude start q ending).plain = ending.plain := by
  cases ending with
  | returned a m =>
    simp only [conclude]
    split <;> rfl
  | threw e m => rfl
  | exhausted m => rfl

/-! ## Conversions -/

/-- The outcome of a conversion with its store; a failed one leaves the store as it was. -/
def PlainStore.settle (p : PlainStore) :
    Except ScriptError (Value × PlainStore) → Except ScriptError Value × PlainStore
  | .ok (v, p') => (.ok v, p')
  | .error e => (.error e, p)

/-- The iterables of the host yield their items and change no collection. The items depend on what
the collections hold at that moment, and on nothing else. -/
def Context.YieldsAs (ctx : Context) (depth : Nat) (yields : PlainStore.Yields) : Prop :=
  ∀ i m, ((ctx.drain i).run (ctx.answer depth) m).plain =
    some (.ok (yields i m.store.plain), m.store.plain)

namespace Context

variable {depth : Nat} {yields : PlainStore.Yields}

theorem plain_refuse (answer : (q : Query) → Machine → Ending q.Answer) (v : Value)
    (target : HostType) (m : Machine) :
    ((Converter.refuse v target).run answer m).plain =
      some (.error (m.store.plain.refusal v target), m.store.plain) := by
  simp [Converter.refuse, PlainStore.refusal, Ending.plain]

/-- Makes a fresh list, as a value. -/
def listOf (values : List Value) : Program Value := do
  return .list (← Program.newList values)

theorem plain_listOf (answer : (q : Query) → Machine → Ending q.Answer) (values : List Value)
    (m : Machine) :
    ((listOf values).run answer m).plain =
      some (m.store.plain.settle (.ok (m.store.plain.fresh values))) := by
  rw [← m.store.plain_newList]
  rfl

/-- The standard converter makes host forms as the reference does. -/
theorem plain_hostForm {ctx : Context} (hyields : ctx.YieldsAs depth yields) (v : Value)
    (target : HostType) (m : Machine) :
    ((Converter.convert v target).run (ctx.answer (depth + 1)) m).plain =
      some (m.store.plain.settle (m.store.plain.hostForm yields v target)) := by
  cases target with
  | boolean => rfl
  | text =>
    simp only [Converter.convert, PlainStore.hostForm, Store.store_plain]
    rfl
  | integer =>
    simp only [Converter.convert, PlainStore.hostForm]
    -- what stands for no integer is refused on both sides, with the same error
    cases Converter.numeric? v with
    | none => exact plain_refuse _ v .integer m
    | some n =>
      cases n with
      | integer i => rfl
      | _ => exact plain_refuse _ v .integer m
  | float =>
    simp only [Converter.convert, PlainStore.hostForm]
    cases Converter.numeric? v with
    | none => exact plain_refuse _ v .float m
    | some n => rfl
  | char =>
    cases v with
    | char c => rfl
    | string s =>
      simp only [Converter.convert, PlainStore.hostForm]
      -- only a text of one character has the form of a character
      rcases s.toList with _ | ⟨c, _ | ⟨d, rest⟩⟩
      · exact plain_refuse _ (.string s) .char m
      · rfl
      · exact plain_refuse _ (.string s) .char m
    | _ => exact plain_refuse _ _ .char m
  | list =>
    cases v with
    | list l => rfl
    | pair a b => exact plain_listOf _ [a, b] m
    | iterable i =>
      -- draining changes no collection, so the fresh list is the only difference
      have hdrain : (Program.ask (.drain i) : Program (List Value)).run (ctx.answer (depth + 1)) m =
          (ctx.drain i).run (ctx.answer depth) m :=
        Program.run_ask (ctx.answer (depth + 1)) m (.drain i)
      obtain ⟨m', hreturned, hsame⟩ := Ending.eq_returned_of_plain (hyields i m)
      have hrun : (Converter.convert (.iterable i) .list).run (ctx.answer (depth + 1)) m =
          (listOf (yields i m.store.plain)).run (ctx.answer (depth + 1)) m' := by
        refine (Program.run_bind _ (Program.ask (.drain i)) listOf m).trans ?_
        rw [hdrain, hreturned]
        rfl
      rw [hrun, plain_listOf, hsame]
      rfl
    | _ => exact plain_refuse _ _ .list m
  | map =>
    cases v with
    | map r => rfl
    | _ => exact plain_refuse _ _ .map m

/-- Casts convert as the reference does. -/
theorem plain_cast (ctx : Context) (hconverter : ctx.converter = .standard)
    (hyields : ctx.YieldsAs depth yields) (cast : Cast) (v : Value) (m : Machine) :
    (cast.ending (ctx.answer (depth + 2)) v m).plain =
      some (m.store.plain.settle (m.store.plain.convert yields cast v)) := by
  have hscript : Cast.toScript.ending (ctx.answer (depth + 2)) v m =
      (ctx.converter.toScript v).run (ctx.answer (depth + 1)) m := rfl
  have hhost : ∀ hint, (Cast.toHost hint).ending (ctx.answer (depth + 2)) v m =
      (ctx.converter.toHost v hint).run (ctx.answer (depth + 1)) m := fun _ => rfl
  cases cast with
  | identity => rfl
  | toScript =>
    rw [hscript, hconverter]
    rfl
  | toHost hint =>
    rw [hhost, hconverter]
    cases hint with
    | none => rfl
    | some target => exact plain_hostForm hyields v target m

/-- A conversion changes nothing that is there. -/
theorem retains_of_cast (ctx : Context) (hconverter : ctx.converter = .standard)
    (hyields : ctx.YieldsAs depth yields) (h : Handle) {cast : Cast} {v w : Value} {m m' : Machine}
    (hreturned : cast.ending (ctx.answer (depth + 2)) v m = .returned w m') :
    PlainStore.Retains h m.store.plain m'.store.plain := by
  have hplain := plain_cast ctx hconverter hyields cast v m
  rw [hreturned] at hplain
  cases hconvert : m.store.plain.convert yields cast v with
  | error e =>
    rw [hconvert] at hplain
    cases hplain
  | ok x =>
    obtain ⟨w', p'⟩ := x
    rw [hconvert] at hplain
    injection hplain with hplain
    have hstore : m'.store.plain = p' := congrArg Prod.snd hplain
    exact hstore ▸ PlainStore.retains_convert h hconvert

end Context

/-! ## Capabilities -/

namespace Capability

variable (answer : (q : Query) → Machine → Ending q.Answer) (h : Handle) (key : Value) (cast : Cast)
  (m : Machine)

theorem run_read_adapter :
    (h.adapter.read h.value key cast).run answer m =
      match (m.store.plain.content h).member? key with
      | some v => (cast.ending answer v m).andThen fun w m => .returned (.found w) m
      | none => .returned .missing m := by
  rw [Store.content_plain, (read_adapter_actsAs h key cast m).run]
  cases (m.store.content h).member? key with
  | none => rfl
  | some v => exact Accessor.run_foundBy answer cast (pure v) m

/-- A write that is refused converts nothing. -/
theorem run_write_refused {value : Value}
    (hnone : (m.store.plain.content h).replace? key = none) :
    (h.adapter.write h.value key value cast).run answer m = .returned false m := by
  rw [Store.content_plain] at hnone
  cases h with
  | list l =>
    simp only [Handle.adapter, Handle.value, sequence, writeItem]
    cases hkey : key.index? with
    | none => rfl
    | some i =>
      have hout : ¬i < (m.store.list l).length := by
        simpa [Store.content, Content.replace?, hkey] using hnone
      simp [hout]
  | map r =>
    have hkey : key.memberName? = none := by
      simpa [Store.content, Content.replace?] using hnone
    simp [Handle.adapter, Handle.value, mapping, writeEntry, hkey]

/-- A write that is not refused converts the value, and then stores it where the member was. -/
theorem run_write_accepted {value : Value} {replace : Value → Content}
    (hsome : (m.store.plain.content h).replace? key = some replace)
    (hretains : ∀ w m', cast.ending answer value m = .returned w m' →
      PlainStore.Retains h m.store.plain m'.store.plain) :
    ((h.adapter.write h.value key value cast).run answer m).plain =
      (cast.ending answer value m).plain.map fun
        | (.ok w, p) => (.ok true, p.place h (replace w))
        | (.error e, p) => (.error e, p) := by
  -- the conversion keeps the collection, so the place that was found is still there
  have hsame : ∀ w m', cast.ending answer value m = .returned w m' →
      m'.store.content h = m.store.content h := by
    intro w m' hw
    rw [← Store.content_plain, ← Store.content_plain]
    exact (hretains w m' hw (PlainStore.taken_of_replace? hsome)).2
  rw [Store.content_plain] at hsome
  cases h with
  | list l =>
    simp only [Store.content, Content.replace?] at hsome
    cases hkey : key.index? with
    | none => simp [hkey] at hsome
    | some i =>
      by_cases hi : i < (m.store.list l).length
      · have hreplace : replace = fun v =>
            .items ((m.store.list l).take i ++ v :: (m.store.list l).drop (i + 1)) := by
          simpa [hkey, hi, eq_comm] using hsome
        simp only [Handle.adapter, Handle.value, sequence, writeItem, hkey]
        cases hw : cast.ending answer value m with
        | returned w m' =>
          -- the list is looked at again here, and it is as long as it was
          have hlist : m'.store.list l = m.store.list l := by
            simpa [Store.content] using hsame w m' hw
          simp [hi, hw, hlist, Ending.plain, hreplace, Store.plain_setList,
            List.set_eq_take_append_cons_drop]
        | threw e m' => simp [hi, hw, Ending.plain]
        | exhausted m' => simp [hi, hw, Ending.plain]
      · simp [hkey, hi] at hsome
  | map r =>
    simp only [Store.content, Content.replace?] at hsome
    cases hkey : key.memberName? with
    | none => simp [hkey] at hsome
    | some name =>
      have hreplace : replace = fun v =>
          .entries (Content.bindName name v (m.store.map r).entries) := by
        simpa [hkey, eq_comm] using hsome
      simp only [Handle.adapter, Handle.value, mapping, writeEntry, hkey]
      cases hw : cast.ending answer value m with
      | returned w m' =>
        have hmap : (m'.store.map r).entries = (m.store.map r).entries := by
          simpa [Store.content] using hsame w m' hw
        simp [hw, Ending.plain, hreplace, Store.plain_setMap, Assoc.insert, hmap,
          Content.insertEntry_eq_bindName w (m.store.map r).nodup_keys]
      | threw e m' => simp [hw, Ending.plain]
      | exhausted m' => simp [hw, Ending.plain]

end Capability

/-! ## Members of tables -/

theorem ListMethod.run_call (answer : (q : Query) → Machine → Ending q.Answer)
    (method : ListMethod) (l : ListRef) (args : List Value) (m : Machine) :
    let result := method.apply (m.store.list l) args
    (method.call (.list l) args).run answer m =
      .returned result.1 { m with store := m.store.setList l result.2 } := by
  cases method <;>
    simp [call, apply, Builtin.Sequence.push, Builtin.Sequence.pop]

/-! ## Acts -/

/-- What a context does for an act. -/
def Act.program (ctx : Context) (h : Handle) : Act → Program Reply
  | .read key cast => .looked <$> ctx.read h.value key cast
  | .write key value cast => .accepted <$> ctx.write h.value key value cast
  | .delete key => .looked <$> ctx.delete h.value key
  | .call method args cast => .looked <$> ctx.invoke h.value (.string method.name) args cast

/-- Performs acts in sequence, each on the machine that the one before it has left. -/
def Context.actAll (ctx : Context) (depth : Nat) :
    List (Handle × Act) → Machine → List (Ending Reply)
  | [], _ => []
  | (h, a) :: rest, m =>
    let ending := ctx.run depth (a.program ctx h) m
    ending :: ctx.actAll depth rest ending.machine

/-- What is found is handed over. -/
theorem Ending.plain_handOver {ending : Ending Value} {p : PlainStore}
    {r : Except ScriptError (Value × PlainStore)} (h : ending.plain = some (p.settle r)) :
    (ending.andThen fun w m => .returned (Reply.looked (.found w)) m).plain =
      some (p.handOver r) := by
  rw [Ending.plain_andThen_returned, h]
  cases r <;> rfl

/-- What is found is no miss. -/
theorem Request.found_orElse {q : Request} {α : Type} (ending : Ending α) (a : α → q.Answer)
    (next : Machine → Ending q.Answer) (h : ∀ v, q.isMiss (a v) = false) :
    ((ending.andThen fun v m => .returned (a v) m).andThen fun a m =>
      if q.isMiss a then next m else .returned a m) =
      ending.andThen fun v m => .returned (a v) m := by
  cases ending with
  | returned v m => simp [h]
  | threw e m => rfl
  | exhausted m => rfl

namespace Context

variable (hostObjectName : String) (host : Host) (config : Config) {depth : Nat}
  {yields : PlainStore.Yields}

/-- Up to events, a request on a collection is served by the capability and the tables. -/
theorem plain_request (h : Handle) (q : Request) (hq : q.this = h.value) (f : q.Answer → Reply)
    (m : Machine) :
    let ctx := core hostObjectName host .standard config
    let start := ctx.classify h.value
    ((f <$> ctx.dispatch start q).run (ctx.answer (depth + 2)) m).plain =
      ((f <$> q.orElse (h.adapter.serve q) fun _ =>
        q.askAll ((ctx.tableMembers start q.operation q.key).map .entry)).run
          (ctx.answer (depth + 2)) m).plain := by
  intro ctx start
  rw [Program.run_map_eq, Program.run_map_eq, Ending.plain_andThen_returned,
    Ending.plain_andThen_returned, run_collection hostObjectName host .standard config _ h q hq,
    plain_conclude]

/-- A request that never touches the tables is served by the capability alone. -/
theorem plain_request_of_tables (h : Handle) (q : Request) (hq : q.this = h.value)
    (htables : ∀ level : Prototype, level.tables q.operation = []) (f : q.Answer → Reply)
    (m : Machine) :
    let ctx := core hostObjectName host .standard config
    ((f <$> ctx.dispatch (ctx.classify h.value) q).run (ctx.answer (depth + 2)) m).plain =
      (((h.adapter.serve q).run (ctx.answer (depth + 2)) m).andThen fun a m =>
        .returned (f a) m).plain := by
  intro ctx
  rw [plain_request hostObjectName host config h q hq, tableMembers_of_tables htables,
    List.map_nil, Request.askAll_nil, Request.orElse_miss, Program.run_map_eq]

/-- The property of the tables gives the current length of a list. -/
theorem plain_read_length
    (hyields : (core hostObjectName host .standard config).YieldsAs depth yields)
    (l : ListRef) (key : Value) (cast : Cast) (m : Machine) :
    let ctx := core hostObjectName host .standard config
    let length : List Candidate := [Accessor.property Builtin.Sequence.length].map .entry
    ((((Request.read (.list l) key cast).askAll length).run
      (ctx.answer (depth + 2)) m).andThen fun a m => .returned (Reply.looked a) m).plain =
      some (m.store.plain.handOver
        (m.store.plain.convert yields cast (.count (m.store.list l).length))) := by
  intro ctx length
  have hask : (Request.read (.list l) key cast).askAll length =
      Accessor.foundBy cast (Builtin.Sequence.length (.list l)) :=
    Request.askAll_singleton _ _
  have hcount : (Builtin.Sequence.length (.list l)).run (ctx.answer (depth + 2)) m =
      .returned (.count (m.store.list l).length) m := rfl
  rw [hask, Accessor.run_foundBy, hcount, Ending.returned_andThen, Ending.andThen_assoc]
  exact Ending.plain_handOver (plain_cast ctx rfl hyields cast _ m)

theorem plain_read (hyields : (core hostObjectName host .standard config).YieldsAs depth yields)
    (h : Handle) (key : Value) (cast : Cast) (m : Machine) :
    let ctx := core hostObjectName host .standard config
    (ctx.run (depth + 2) ((Act.read key cast).program ctx h) m).plain =
      some (m.store.plain.act yields config.tableKey h (.read key cast)) := by
  intro ctx
  have hcast := fun v => plain_cast ctx rfl hyields cast v m
  refine (plain_request hostObjectName host config h (.read h.value key cast) rfl
    .looked m).trans ?_
  have hserve : h.adapter.serve (.read h.value key cast) = h.adapter.read h.value key cast := rfl
  rw [Program.run_map_eq, Request.run_orElse, hserve, Capability.run_read_adapter]
  simp only [PlainStore.act]
  cases hmember : (m.store.plain.content h).member? key with
  | some v =>
    simp only
    rw [Request.found_orElse (q := .read h.value key cast) _ _ _ fun _ => rfl, Ending.andThen_assoc]
    exact Ending.plain_handOver (hcast v)
  | none =>
    -- no member is addressed, so the tables are next
    have hmiss : (Request.read h.value key cast).isMiss Lookup.missing = true := rfl
    simp only [Ending.returned_andThen, hmiss, if_true]
    have htables := tableMembers_read hostObjectName host .standard config h key
    simp only [Request.operation, Request.key]
    rw [htables]
    cases h with
    | list l =>
      have hcontent : m.store.plain.content (.list l) = .items (m.store.list l) :=
        Store.content_plain m.store (.list l)
      simp only [hcontent]
      by_cases hlength : config.tableKey = .member ∧ key.memberName? = some "length"
      · rw [if_pos hlength, if_pos hlength]
        exact plain_read_length hostObjectName host config hyields l key cast m
      · rw [if_neg hlength, if_neg hlength]
        rfl
    | map r =>
      have hcontent : m.store.plain.content (.map r) = .entries (m.store.map r).entries :=
        Store.content_plain m.store (.map r)
      simp only [hcontent]
      rfl

theorem plain_write (hyields : (core hostObjectName host .standard config).YieldsAs depth yields)
    (h : Handle) (key value : Value) (cast : Cast) (m : Machine) :
    let ctx := core hostObjectName host .standard config
    (ctx.run (depth + 2) ((Act.write key value cast).program ctx h) m).plain =
      some (m.store.plain.act yields config.tableKey h (.write key value cast)) := by
  intro ctx
  have hcast := plain_cast ctx rfl hyields cast value m
  refine (plain_request_of_tables hostObjectName host config h (.write h.value key value cast) rfl
    (fun _ => rfl) .accepted m).trans ?_
  have hserve : h.adapter.serve (.write h.value key value cast) =
      h.adapter.write h.value key value cast := rfl
  rw [hserve]
  simp only [PlainStore.act]
  cases hreplace : (m.store.plain.content h).replace? key with
  | none =>
    rw [Capability.run_write_refused _ h key cast m hreplace]
    rfl
  | some replace =>
    have hretains : ∀ w m', cast.ending (ctx.answer (depth + 2)) value m = .returned w m' →
        PlainStore.Retains h m.store.plain m'.store.plain :=
      fun _ _ hw => retains_of_cast ctx rfl hyields h hw
    rw [Ending.plain_andThen_returned,
      Capability.run_write_accepted _ h key cast m hreplace hretains, hcast]
    cases m.store.plain.convert yields cast value <;> rfl

theorem plain_delete (hyields : (core hostObjectName host .standard config).YieldsAs depth yields)
    (h : Handle) (key : Value) (m : Machine) :
    let ctx := core hostObjectName host .standard config
    (ctx.run (depth + 2) ((Act.delete key).program ctx h) m).plain =
      some (m.store.plain.act yields config.tableKey h (.delete key)) := by
  intro ctx
  refine (plain_request_of_tables hostObjectName host config h (.delete h.value key) rfl
    (fun _ => rfl) .looked m).trans ?_
  have hserve : h.adapter.serve (.delete h.value key) = h.adapter.delete h.value key := rfl
  have hplain := m.store.takeOut_plain h key
  rw [hserve, Capability.run_delete_adapter]
  simp only [PlainStore.act]
  cases htake : m.store.takeOut h key with
  | none =>
    rw [htake, Option.map_none, eq_comm, Option.map_eq_none_iff] at hplain
    rw [hplain]
    rfl
  | some taken =>
    obtain ⟨v, s⟩ := taken
    rw [htake, Option.map_some, eq_comm, Option.map_eq_some_iff] at hplain
    obtain ⟨⟨w, rest⟩, hremove, hsame⟩ := hplain
    obtain ⟨rfl, hplace⟩ := Prod.mk.inj hsame
    rw [hremove]
    simp only [hplace]
    rw [Ending.andThen_assoc]
    exact Ending.plain_handOver (plain_cast ctx rfl hyields .toScript w { m with store := s })

theorem plain_call (hyields : (core hostObjectName host .standard config).YieldsAs depth yields)
    (h : Handle) (method : ListMethod) (args : List Value) (cast : Cast) (m : Machine) :
    let ctx := core hostObjectName host .standard config
    (ctx.run (depth + 2) ((Act.call method args cast).program ctx h) m).plain =
      some (m.store.plain.act yields config.tableKey h (.call method args cast)) := by
  intro ctx
  let q : Request := .invoke h.value (.string method.name) args cast
  refine (plain_request hostObjectName host config h q rfl .looked m).trans ?_
  have hserve : h.adapter.serve q = pure q.miss :=
    Capability.invoke_adapter h h.value (.string method.name) args cast
  have htables := tableMembers_method hostObjectName host .standard config h method
  have hoperation : q.operation = .invoke := rfl
  have hkey : q.key = .string method.name := rfl
  rw [hserve, Request.miss_orElse, hoperation, hkey, htables, Program.run_map_eq]
  simp only [PlainStore.act, Store.content_plain]
  cases h with
  | map r => cases config.tableKey <;> rfl
  | list l =>
    cases config.tableKey with
    | prototypeName => rfl
    | member =>
      have hask : q.askAll ([Accessor.method method.call].map .entry) =
          Accessor.foundBy cast (method.call (.list l) args) := q.askAll_singleton _
      -- the list is changed before the result of the method is converted
      simp only [if_true, Store.content]
      rw [hask, Accessor.run_foundBy, ListMethod.run_call, Ending.returned_andThen,
        Ending.andThen_assoc]
      rw [← Store.plain_setList]
      exact Ending.plain_handOver (plain_cast ctx rfl hyields cast _ _)

/-- Each act does what the reference does. -/
theorem plain_act (hyields : (core hostObjectName host .standard config).YieldsAs depth yields)
    (h : Handle) (a : Act) (m : Machine) :
    let ctx := core hostObjectName host .standard config
    (ctx.run (depth + 2) (a.program ctx h) m).plain =
      some (m.store.plain.act yields config.tableKey h a) := by
  cases a with
  | read key cast => exact plain_read hostObjectName host config hyields h key cast m
  | write key value cast => exact plain_write hostObjectName host config hyields h key value cast m
  | delete key => exact plain_delete hostObjectName host config hyields h key m
  | call method args cast =>
    exact plain_call hostObjectName host config hyields h method args cast m

theorem plain_machine {α : Type} {ending : Ending α} {x : Except ScriptError α × PlainStore}
    (h : ending.plain = some x) : ending.machine.store.plain = x.2 := by
  cases ending <;> cases h <;> rfl

/-- Acts in sequence do what the reference does, one after the other. -/
theorem plain_actAll (hyields : (core hostObjectName host .standard config).YieldsAs depth yields)
    (acts : List (Handle × Act)) (m : Machine) :
    ((core hostObjectName host .standard config).actAll (depth + 2) acts m).map Ending.plain =
      (m.store.plain.actAll yields config.tableKey acts).map some := by
  induction acts generalizing m with
  | nil => rfl
  | cons a rest ih =>
    obtain ⟨h, a⟩ := a
    have hact := plain_act hostObjectName host config hyields h a m
    simp only [actAll, PlainStore.actAll, List.map_cons, hact, ih, plain_machine hact]

end Context

/-- In the core realm with the standard converter, a sequence of acts on lists and maps has the
answers that the reference gives, with the same collections after each of them; and collections
that no act addresses stay as they are. -/
theorem collections_refine (hostObjectName : String) (host : Host) (config : Config) (depth : Nat)
    (yields : PlainStore.Yields)
    (hyields : (Context.core hostObjectName host .standard config).YieldsAs depth yields)
    (acts : List (Handle × Act)) (m : Machine) :
    let ctx := Context.core hostObjectName host .standard config
    (ctx.actAll (depth + 2) acts m).map Ending.plain =
        (m.store.plain.actAll yields config.tableKey acts).map some ∧
      ∀ k, m.store.Known k → (∀ a ∈ acts, a.1 ≠ k) →
        ∀ ending ∈ ctx.actAll (depth + 2) acts m,
          ending.machine.store.content k = m.store.content k := by
  intro ctx
  have hruns := Context.plain_actAll hostObjectName host config hyields acts m
  refine ⟨hruns, fun k hknown hne ending hending => ?_⟩
  -- the outcome of the reference at the same place in the sequence
  obtain ⟨x, hx, hplain⟩ : ∃ x ∈ m.store.plain.actAll yields config.tableKey acts,
      some x = ending.plain := by
    rw [← List.mem_map, ← hruns]
    exact List.mem_map_of_mem hending
  have htaken : m.store.plain.Taken k := by
    cases k with
    | list l => exact hknown
    | map r => exact trivial
  have hretains := PlainStore.retains_actAll k acts hne m.store.plain x hx htaken
  rw [← Store.content_plain, ← Store.content_plain, Context.plain_machine hplain.symm]
  exact hretains.2

/-! ## An iterable over a list -/

/-- A host with one iterable, which yields what a list holds at that moment. -/
def Host.listing (l : ListRef) : Host :=
  ⟨#[], #[Program.list l]⟩

/-- What the iterable of `Host.listing` yields. -/
def PlainStore.listing (l : ListRef) : PlainStore.Yields := fun i p =>
  if i.index = 0 then p.lists[l.index]?.getD [] else []

theorem Context.yieldsAs_listing (l : ListRef) (config : Config) (depth : Nat) :
    (core "HostObject" (.listing l) .standard config).YieldsAs depth (PlainStore.listing l) := by
  intro i m
  have hdrain : (core "HostObject" (.listing l) .standard config).drain i =
      if i.index = 0 then Program.list l else pure [] := by
    by_cases hi : i.index = 0
    · simp [drain, core, Host.listing, hi]
    · simp [drain, core, Host.listing, hi]
  rw [hdrain]
  by_cases hi : i.index = 0
  · have hcontent : m.store.plain.lists[l.index]?.getD [] = m.store.list l := by
      simp [Store.plain, Store.list]
    simp [hi, PlainStore.listing, hcontent, Ending.plain]
  · simp [hi, PlainStore.listing, Ending.plain]

/-- An iterable is copied when it is stored as a list, so the copy does not follow the list. -/
theorem collections_refine_listing :
    let ctx := Context.core "HostObject" (.listing ⟨0⟩) .standard .standard
    let acts : List (Handle × Act) :=
      [(.map ⟨0⟩, .write (.string "all") (.iterable ⟨0⟩) (.toHost (some .list))),
       (.list ⟨0⟩, .call .pop [] .identity),
       (.map ⟨0⟩, .delete (.string "all"))]
    let m : Machine := ⟨⟨#[[.null, .undefined]], #[∅]⟩, #[]⟩
    ctx.YieldsAs 0 (PlainStore.listing ⟨0⟩) ∧
    (ctx.actAll 2 acts m).map Ending.plain =
      [some (.ok (.accepted true),
        ⟨[[.null, .undefined], [.null, .undefined]], [[("all", .list ⟨1⟩)]]⟩),
       some (.ok (.looked (.found .undefined)),
        ⟨[[.null], [.null, .undefined]], [[("all", .list ⟨1⟩)]]⟩),
       some (.ok (.looked (.found (.list ⟨1⟩))), ⟨[[.null], [.null, .undefined]], [[]]⟩)] := by
  intro ctx acts m
  have hyields := Context.yieldsAs_listing ⟨0⟩ .standard 0
  have hruns := collections_refine "HostObject" (.listing ⟨0⟩) .standard 0
    (PlainStore.listing ⟨0⟩) hyields acts m
  exact ⟨hyields, hruns.1⟩

/-! ## Failing casts and other tables -/

theorem Context.yieldsAs_empty (config : Config) (depth : Nat) :
    (core "HostObject" .empty .standard config).YieldsAs depth fun _ _ => [] := by
  intro i m
  simp [drain, core, Host.empty, Ending.plain]

/-- A host with one iterable, which fills the second list when it is asked for its items. -/
def Host.filling : Host :=
  ⟨#[], #[do Program.setList ⟨1⟩ [.null]; return []]⟩

/-- A push whose result is refused has still extended the list; where the tables are looked up by
the names of prototypes a list has no length; and an iterable may change another list than the one
that is read. -/
theorem refused_push_and_missing_length :
    let m : Machine := ⟨⟨#[[]], #[]⟩, #[]⟩
    let byMember := Context.core "HostObject" .empty .standard .standard
    let byPrototype := Context.core "HostObject" .empty .standard
      { tableKey := .prototypeName }
    let filling := Context.core "HostObject" .filling .standard .standard
    (∃ e, (byMember.run 2
        ((Act.call .push [.null] (.toHost (some .list))).program byMember (.list ⟨0⟩)) m).plain =
      some (.error e, ⟨[[.null]], []⟩)) ∧
    (byPrototype.run 2
        ((Act.read (.string "length") .identity).program byPrototype (.list ⟨0⟩)) m).plain =
      some (.ok (.looked .missing), m.store.plain) ∧
    (filling.run 2
        ((Act.read (.int 0) (.toHost (some .list))).program filling (.list ⟨0⟩))
        ⟨⟨#[[.iterable ⟨0⟩], []], #[]⟩, #[]⟩).plain =
      some (.ok (.looked (.found (.list ⟨2⟩))), ⟨[[.iterable ⟨0⟩], [.null], []], []⟩) := by
  intro m byMember byPrototype filling
  have hpush := Context.plain_call "HostObject" .empty .standard
    (Context.yieldsAs_empty .standard 0) (.list ⟨0⟩) .push [.null] (.toHost (some .list)) m
  have hlength := Context.plain_read "HostObject" .empty { tableKey := .prototypeName }
    (Context.yieldsAs_empty _ 0) (.list ⟨0⟩) (.string "length") .identity m
  exact ⟨⟨_, hpush⟩, hlength, rfl⟩

end ScriptRealm
