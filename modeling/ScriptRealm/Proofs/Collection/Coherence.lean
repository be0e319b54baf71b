import ScriptRealm.Proofs.Collection.Plain
import ScriptRealm.Proofs.Collection.Views

/-!
# Views, reads and lengths

The views of a receiver agree with each other, with its length, with its form as a host list, and
with what reading it finds. Lists and maps are read by exactly the keys that their view has.
-/

namespace ScriptRealm

/-! ## Keys of a collection -/

/-- The keys that members of a collection of this kind are read by. -/
def Handle.IsKey : Handle → Value → Prop
  | .list _, key => ∃ i, key = .number (.integer i)
  | .map _, key => ∃ name, key = .string name

namespace Content

/-- The keys of the members, in their order. -/
def keys : Content → List Value
  | .items values => View.positions values.length
  | .entries pairs => pairs.map fun e => .string e.1

/-- The members, in their order. -/
def values : Content → List Value
  | .items values => values
  | .entries pairs => pairs.map Prod.snd

end Content

/-- Counts of 63 bits are counted as they are. -/
theorem Value.count_eq {n : Nat} (h : n < 9223372036854775808) :
    ∃ i : Int64, Value.count n = .number (.integer i) ∧ i.toInt = n :=
  ⟨Int64.ofInt n, rfl, Int64.toInt_ofInt_of_le (by omega) (by omega)⟩

theorem Value.index?_integer (i : Int64) :
    (Value.number (.integer i)).index? = if 0 ≤ i.toInt then some i.toInt.toNat else none := rfl

theorem Value.index?_count {n : Nat} (h : n < 9223372036854775808) :
    (Value.count n).index? = some n := by
  obtain ⟨i, hcount, hi⟩ := Value.count_eq h
  rw [hcount, Value.index?_integer, hi, if_pos (Int.natCast_nonneg n), Int.toNat_natCast]

/-- Only numbers have a position. -/
theorem Value.exists_number_of_index? {key : Value} {i : Nat} (h : key.index? = some i) :
    ∃ n, key = .number n := by
  cases key with
  | number n => exact ⟨n, rfl⟩
  | _ => cases h

/-- Different counts are different values. -/
theorem Value.count_ne_count {n k : Nat} (hn : n < 9223372036854775808)
    (hk : k < 9223372036854775808) (hne : n ≠ k) : (Value.count n).eq (Value.count k) = false := by
  obtain ⟨i, hi, hin⟩ := Value.count_eq hn
  obtain ⟨j, hj, hjk⟩ := Value.count_eq hk
  have hij : i ≠ j := by
    rintro rfl
    exact hne (Int.ofNat_inj.1 (hin.symm.trans hjk))
  have hbeq : (i == j) = false := beq_eq_false_iff_ne.2 hij
  rw [hi, hj]
  exact hbeq

namespace Store

variable (s : Store) {c : Handle}

/-- The keys of a collection are pairwise different. -/
theorem pairwise_keys (hsize : (s.content c).values.length < 9223372036854775808) :
    (s.content c).keys.Pairwise fun k k' => k.eq k' = false := by
  cases c with
  | list l =>
    rw [content, Content.values] at hsize
    rw [content, Content.keys, View.positions, List.pairwise_map]
    refine List.Pairwise.imp_of_mem ?_ List.pairwise_lt_range
    intro i j hi hj hlt
    rw [List.mem_range] at hi hj
    exact Value.count_ne_count (by omega) (by omega) (Nat.ne_of_lt hlt)
  | map r =>
    have hnodup := (s.map r).nodup_keys
    rw [List.Nodup, List.pairwise_map] at hnodup
    rw [content, Content.keys, List.pairwise_map]
    refine hnodup.imp ?_
    intro e e' hne
    simpa [Value.eq] using hne

/-- Each key addresses the member in its place. -/
theorem member?_key (hsize : (s.content c).values.length < 9223372036854775808) {i : Nat}
    {k v : Value} (hk : (s.content c).keys[i]? = some k) (hv : (s.content c).values[i]? = some v) :
    (s.content c).member? k = some v := by
  cases c with
  | list l =>
    rw [content, Content.values] at hsize hv
    obtain ⟨hi, -⟩ := List.getElem?_eq_some_iff.1 hv
    have hposition : (Content.items (s.list l)).keys[i]? = some (.count i) := by
      simp [Content.keys, View.positions, hi]
    obtain rfl := Option.some.inj (hposition.symm.trans hk)
    rw [content, Content.member?, Value.index?_count (by omega)]
    exact hv
  | map r =>
    simp only [content, Content.keys, Content.values, List.getElem?_map,
      Option.map_eq_some_iff] at hk hv
    obtain ⟨e, he, rfl⟩ := hk
    obtain ⟨e', he', rfl⟩ := hv
    obtain rfl := Option.some.inj (he.symm.trans he')
    have hfind := Assoc.find?_of_mem (List.mem_of_getElem? he)
    rw [Assoc.find?_eq_lookup] at hfind
    exact hfind

/-- Other keys of the kind address nothing. -/
theorem member?_of_not_mem_keys {key : Value} (hkind : c.IsKey key)
    (hkey : key ∉ (s.content c).keys) : (s.content c).member? key = none := by
  cases c with
  | list l =>
    obtain ⟨i, rfl⟩ := hkind
    rw [content, Content.member?, Value.index?_integer]
    split
    · rename_i hi
      rw [Option.bind_some, List.getElem?_eq_none_iff]
      refine Nat.le_of_not_lt fun hlt => hkey ?_
      have hcount : Value.count i.toInt.toNat = .number (.integer i) := by
        rw [Value.count, Value.int, Int.toNat_of_nonneg hi, Int64.ofInt_toInt]
      rw [content, Content.keys, View.positions, ← hcount]
      exact List.mem_map_of_mem (List.mem_range.2 hlt)
    · rfl
  | map r =>
    obtain ⟨name, rfl⟩ := hkind
    rw [content, Content.member?, Value.memberName?, Option.bind_some, ← Assoc.find?_eq_lookup]
    refine Option.eq_none_iff_forall_ne_some.2 fun v hfind => hkey ?_
    have hname := Assoc.mem_keys_of_find? hfind
    rw [Assoc.keys, List.mem_map] at hname
    obtain ⟨e, he, rfl⟩ := hname
    exact List.mem_map_of_mem he

end Store

/-! ## Reading members and lengths -/

namespace Context

variable (hostObjectName : String) (host : Host) (converter : Converter) (config : Config)
  (answer : (q : Query) → Machine → Ending q.Answer) (m : Machine)

/-- A member that a key addresses is found, after its conversion. -/
theorem run_read_stored {c : Handle} {key v : Value}
    (hmember : (m.store.content c).member? key = some v) (cast : Cast) :
    ((core hostObjectName host converter config).read c.value key cast).run answer m =
      (cast.ending answer v m).andThen fun w m => .returned (.found w) m := by
  let q : Request := .read c.value key cast
  have hserve : (c.adapter.serve q).run answer m =
      (cast.ending answer v m).andThen fun w m => .returned (.found w) m := by
    have hread := (Capability.read_adapter_actsAs c key cast m).run answer
    rw [hmember] at hread
    exact hread.trans (Accessor.run_foundBy answer cast (pure v) m)
  refine (run_collection hostObjectName host converter config answer c q rfl m).trans ?_
  rw [Request.run_orElse, hserve]
  cases cast.ending answer v m <;> rfl

theorem run_read_member {c : Handle} {key v : Value}
    (hmember : (m.store.content c).member? key = some v) :
    ((core hostObjectName host converter config).read c.value key .identity).run answer m =
      .returned (.found v) m :=
  run_read_stored hostObjectName host converter config answer m hmember .identity

/-- Where all candidates miss, so does dispatch, which leaves the collections as they are. -/
theorem run_dispatch_missed {ctx : Context} {start : ProtoId} {q : Request} {m : Machine}
    {answer : (q : Query) → Machine → Ending q.Answer}
    (h : (q.askAll (ctx.candidates start q)).run answer m = .returned q.miss m) :
    ∃ m', (ctx.dispatch start q).run answer m = .returned q.miss m' ∧ m'.store = m.store := by
  rw [ctx.run_dispatch, h, conclude]
  split
  · exact ⟨_, rfl, rfl⟩
  · exact ⟨m, rfl, rfl⟩

/-- A key that addresses no member is looked up in the tables, where no key of the kind is found. -/
theorem run_read_absent {c : Handle} {key : Value} (hkind : c.IsKey key)
    (hmember : (m.store.content c).member? key = none) :
    ∃ m', ((core hostObjectName host converter config).read c.value key .identity).run answer m =
      .returned .missing m' ∧ m'.store = m.store := by
  let ctx := core hostObjectName host converter config
  let q : Request := .read c.value key .identity
  have hserve : (c.adapter.serve q).run answer m = .returned Lookup.missing m := by
    have hread := (Capability.read_adapter_actsAs c key .identity m).run answer
    rw [hmember] at hread
    exact hread
  have htables : ctx.tableMembers (ctx.classify c.value) .read key = [] := by
    rw [tableMembers_read]
    cases c with
    | list l =>
      obtain ⟨i, rfl⟩ := hkind
      simp [Value.memberName?]
    | map r => rfl
  have htables' : ctx.tableMembers (ctx.classify c.value) q.operation q.key = [] := htables
  have hmiss : q.isMiss Lookup.missing = true := rfl
  have hask : (q.askAll (ctx.candidates (ctx.classify c.value) q)).run answer m =
      .returned q.miss m := by
    rw [askAll_collection hostObjectName host converter config c q rfl, Request.run_orElse, hserve,
      Ending.returned_andThen, if_pos hmiss, htables']
    rfl
  exact run_dispatch_missed hask

/-- A property is what a level answers with if its capability misses. -/
theorem readLevels_property {ctx : Context} {this key : Value} {cast : Cast} {level : Prototype}
    {get : Value → Program Value}
    (hcapability : (level.capability?.getD .passive).read this key cast = pure .missing)
    (hentries : ctx.tableEntries Prototype.readable level key = [.property get])
    (rest : List Prototype) :
    ctx.readLevels this key cast (level :: rest) = Accessor.foundBy cast (get this) := by
  have hfirst : readFirst this cast [.property get] = Accessor.foundBy cast (get this) :=
    Accessor.foundBy_onMiss cast (get this) _
  have hmissing : ∀ next : Unit → Program Lookup,
      (pure .missing : Program Lookup).onMiss next = next () := fun _ => rfl
  rw [readLevels, hcapability, hentries, hfirst, hmissing, Accessor.foundBy_onMiss]

/-- A receiver without own members is read along the chain. -/
theorem readFrom_of_no_members {ctx : Context} {this : Value} (h : ctx.ownMembers? this = none)
    (start : ProtoId) (key : Value) (cast : Cast) :
    ctx.readFrom start this key cast =
      (ctx.readLevels this key cast (ctx.realm.chain start)).onMiss fun _ => do
        ctx.traceMiss .read start key
        return .missing := by
  rw [readFrom, h]
  rfl

/-- In the core realm a property of the receiver's own prototype is read by its name. -/
theorem read_property_core {this : Value} {name : String} {role : Role}
    {get : Value → Program Value} (hkey : config.tableKey = .member)
    (hobject : ∀ o, this ≠ .object o) (hrole : Realm.roleOf this = role) (cast : Cast)
    (hcapability : ((Builtin.prototype hostObjectName role).capability?.getD .passive).read this
      (.string name) cast = pure .missing)
    (hget : (Builtin.prototype hostObjectName role).readable name = [.property get]) :
    (core hostObjectName host converter config).read this (.string name) cast =
      Accessor.foundBy cast (get this) := by
  let ctx := core hostObjectName host converter config
  have hclassify : ctx.classify this = Builtin.roleId role := by
    rw [classify_core hostObjectName host converter config hobject, hrole]
  have hown : ctx.ownMembers? this = none := by
    cases this <;> first | rfl | exact absurd rfl (hobject _)
  have hchain : ctx.realm.chain (Builtin.roleId role) =
      Builtin.prototype hostObjectName role ::
        (Builtin.roleParent role).toList.map fun _ => Builtin.prototype hostObjectName .object :=
    Realm.chain_core hostObjectName role
  have hentries : ctx.tableEntries Prototype.readable (Builtin.prototype hostObjectName role)
      (.string name) = [.property get] := by
    have hmode : ctx.config.tableKey = .member := hkey
    rw [tableEntries, hmode]
    exact hget
  have hlevels := readLevels_property hcapability hentries
    ((Builtin.roleParent role).toList.map fun _ => Builtin.prototype hostObjectName .object)
  have hread : ctx.read this (.string name) cast =
      ctx.readFrom (Builtin.roleId role) this (.string name) cast := by
    rw [← hclassify, read]
  rw [hread, readFrom_of_no_members hown, hchain, hlevels, Accessor.foundBy_onMiss]

/-- Where tables are looked up by the names of members, reading the length of a sequence is asking
the property of the prototype that all sequences share. -/
theorem read_length_core {this : Value} (hkey : config.tableKey = .member)
    (harray : Realm.roleOf this = .array) (cast : Cast) :
    (core hostObjectName host converter config).read this (.string "length") cast =
      Accessor.foundBy cast (Builtin.Sequence.length this) := by
  have hobject : ∀ o, this ≠ .object o := by
    rintro o rfl
    cases harray
  -- a name is no position, so the capability for sequences misses
  have hsequence : Capability.sequence.read this (.string "length") cast = pure .missing := by
    cases this <;> rfl
  exact read_property_core hostObjectName host converter config hkey hobject harray cast hsequence
    rfl

end Context

/-! ## Lengths and host lists -/

namespace Context

variable {hostObjectName : String} {host : Host} {converter : Converter} {config : Config}
  {depth start d : Nat} {m : Machine} {this : Value} {keys values : List Value}

theorem Lists.run_items
    (h : (core hostObjectName host converter config).Lists depth start m this keys values)
    (hd : depth + 2 < d) (hstart : start ≤ m.store.lists.size) :
    let ctx := core hostObjectName host converter config
    ∃ m', (Builtin.Sequence.items this).run (ctx.answer d) m = .returned values m' := by
  intro ctx
  obtain ⟨l, m', hview, hl⟩ := h.shows_view hd hstart .values
  refine ⟨m', (Program.run_ask_bind hview _).trans ?_⟩
  exact congrArg (Ending.returned · m') hl.list_eq

/-- The length of a sequence is the number of its values. -/
theorem Lists.run_length
    (h : (core hostObjectName host converter config).Lists depth start m this keys values)
    (harray : Realm.roleOf this = .array) (hd : depth + 2 < d)
    (hstart : start ≤ m.store.lists.size) :
    let ctx := core hostObjectName host converter config
    ∃ m', (Builtin.Sequence.length this).run (ctx.answer d) m =
      .returned (.count values.length) m' := by
  intro ctx
  obtain ⟨m', hitems⟩ := h.run_items hd hstart
  have hcount : (do return .count (← Builtin.Sequence.items this).length : Program Value).run
      (ctx.answer d) m = .returned (.count values.length) m' := by
    rw [Program.run_bind_eq, hitems]
    rfl
  cases h with
  | list => exact ⟨m, rfl⟩
  | map => cases harray
  | pair => exact ⟨m', hcount⟩
  | iterable => exact ⟨m', hcount⟩

/-- The standard converter makes a host list of the values of a sequence. -/
theorem Lists.run_hostList {ctx : Context} (h : ctx.Lists depth start m this keys values)
    (harray : Realm.roleOf this = .array) (hd : depth < d)
    (hstart : start ≤ m.store.lists.size) :
    ∃ l m', (Converter.convert this .list).run (ctx.answer d) m = .returned (.list l) m' ∧
      m'.store.list l = values := by
  cases h with
  | list => exact ⟨_, m, rfl, rfl⟩
  | map => cases harray
  | pair => exact ⟨_, _, rfl, m.store.list_newList_self _⟩
  | iterable hrestarts =>
    obtain ⟨m', hdrain, -⟩ := hrestarts.answer hd hstart
    exact ⟨_, _, (Program.run_ask_bind hdrain _).trans rfl, m'.store.list_newList_self _⟩

/-- A cast to a host type asks the converter. -/
theorem run_cast_toHost {ctx : Context} (hconverter : ctx.converter = .standard) (d : Nat)
    (m : Machine) (v : Value) (target : HostType) :
    ctx.run (d + 1) ((Cast.toHost (some target)).apply v) m =
      (Converter.convert v target).run (ctx.answer d) m := by
  have hask : ctx.run (d + 1) ((Cast.toHost (some target)).apply v) m =
      (ctx.converter.toHost v (some target)).run (ctx.answer d) m :=
    Cast.run_apply (ctx.answer (d + 1)) (.toHost (some target)) v m
  rw [hask, hconverter]
  rfl

/-- The keys and values of a collection are those of its content. -/
theorem Lists.eq_content {ctx : Context} {c : Handle}
    (h : ctx.Lists depth start m c.value keys values) :
    keys = (m.store.content c).keys ∧ values = (m.store.content c).values := by
  cases c with
  | list l =>
    cases h
    exact ⟨rfl, rfl⟩
  | map r =>
    cases h
    exact ⟨by simp [Store.content, Content.keys, Assoc.keys], rfl⟩

end Context

/-- The views of a list, a map, a pair, or an iterable that starts anew each time: whatever views
are taken one after the other, the lists that come of it show keys, values and pairs of a key with
the value in its place, and the receiver keeps its keys and values. Of a sequence, the property
`length` is the number of the values and the host list has the values; a list is itself the list of
its values. The keys of a list or a map are pairwise different, reading it by a key finds the value
in its place, and reading it by any other key of the kind misses; for this, the last position has to
fit into 64 bits. -/
theorem views_reads_cohere (hostObjectName : String) (host : Host) (converter : Converter)
    (config : Config) {depth start d : Nat} {m : Machine} {this : Value} {keys values : List Value}
    (h : (Context.core hostObjectName host converter config).Lists depth start m this keys values)
    (hstart : start ≤ m.store.lists.size) (hd : depth + 2 < d) :
    let ctx := Context.core hostObjectName host converter config
    let toList : Cast := .toHost (some .list)
    (keys.length = values.length ∧
      ∀ views, ∃ shown m', ctx.run d (Context.viewAll this views) m = .returned shown m' ∧
        shown.map m'.store.list = views.map (View.content keys values) ∧
        ctx.Lists depth start m' this keys values) ∧
    (ctx.classify this = ctx.realm.wellKnown.array →
      (∃ get m', (ctx.realm.get? (ctx.classify this)).bind (·.properties.find? "length") =
          some (.property get) ∧
        ctx.run d (get this) m = .returned (.count values.length) m') ∧
      (config.tableKey = .member →
        ∃ m', ctx.run d (ctx.read this (.string "length") .identity) m =
          .returned (.found (.count values.length)) m') ∧
      (converter = .standard →
        ∃ l m', ctx.run d (toList.apply this) m = .returned (.list l) m' ∧
          m'.store.list l = values)) ∧
    (∀ l, this = .list l →
      ctx.run d (Context.askView this .values) m = .returned l m ∧
      (converter = .standard → ctx.run d (toList.apply this) m = .returned (.list l) m)) ∧
    (∀ c : Handle, this = c.value → values.length < 9223372036854775808 →
      keys.Pairwise (fun k k' => k.eq k' = false) ∧
      (∀ (i : Nat) (k v : Value), keys[i]? = some k → values[i]? = some v →
        ctx.run d (ctx.read this k .identity) m = .returned (.found v) m) ∧
      (∀ key, c.IsKey key → key ∉ keys →
        ∃ m', ctx.run d (ctx.read this key .identity) m = .returned .missing m' ∧
          m'.store = m.store)) := by
  intro ctx toList
  obtain ⟨d, rfl⟩ : ∃ d', d = d' + 1 := ⟨d - 1, by omega⟩
  refine ⟨⟨h.length_eq, fun views => ?_⟩, fun hclassify => ?_, ?_, ?_⟩
  · obtain ⟨shown, m', hrun, hshown, -, hlists⟩ := h.run_viewAll hd hstart views
    exact ⟨shown, m', hrun, hshown, hlists⟩
  · -- the arrays of the realm are sequences, whose length is a property of the prototype
    have harray : Realm.roleOf this = .array := by
      have hrole : Builtin.roleId (Realm.roleOf this) = Builtin.roleId .array :=
        h.classify_eq.symm.trans hclassify
      cases h <;> first | rfl | cases hrole
    obtain ⟨m₁, hlength⟩ := h.run_length harray hd hstart
    obtain ⟨l, m₂, hlist, hvalues⟩ :=
      h.run_hostList harray (by omega : depth < d) hstart
    refine ⟨⟨Builtin.Sequence.length, m₁, ?_, hlength⟩, fun hkey => ⟨m₁, ?_⟩, fun hconverter => ?_⟩
    · have hget : ctx.realm.get? (ctx.classify this) =
          some (Builtin.prototype hostObjectName .array) := by
        rw [h.classify_eq, harray]
        exact Realm.get?_core hostObjectName .array
      rw [hget]
      rfl
    · rw [Context.read_length_core hostObjectName host converter config hkey harray, Context.run,
        Accessor.run_foundBy, hlength]
      rfl
    · subst hconverter
      exact ⟨l, m₂, (Context.run_cast_toHost rfl d m this .list).trans hlist, hvalues⟩
  · -- a list is its own view and its own host form, so that no list is made
    rintro l rfl
    have hview := Context.answer_view_core hostObjectName host converter config d h.classify_eq
      .values m
    refine ⟨(Program.run_ask _ m (.view .values (.list l))).trans hview, fun hconverter => ?_⟩
    subst hconverter
    exact Context.run_cast_toHost rfl d m (.list l) .list
  · -- of a list or a map, the views are the keys and values that it holds
    rintro c rfl hsize
    obtain ⟨rfl, rfl⟩ := h.eq_content
    refine ⟨m.store.pairwise_keys hsize, fun i k v hk hv => ?_, fun key hkind hkey => ?_⟩
    · exact Context.run_read_member hostObjectName host converter config _ m
        (m.store.member?_key hsize hk hv)
    · exact Context.run_read_absent hostObjectName host converter config _ m hkind
        (m.store.member?_of_not_mem_keys hkind hkey)

/-! ## An iterable that counts -/

/-- A host with one iterable. It yields two numbers, and extends the first list at each call. -/
def Host.counting : Host :=
  ⟨#[], #[do
    Program.setList ⟨0⟩ ((← Program.list ⟨0⟩) ++ [.null])
    return [.int 7, .int 8]]⟩

theorem Context.restarts_counting (converter : Converter) (config : Config) (depth : Nat) :
    (core "HostObject" .counting converter config).Restarts depth 1 ⟨0⟩ [.int 7, .int 8] := by
  intro m hsize
  refine ⟨{ m with store := m.store.setList ⟨0⟩ (m.store.list ⟨0⟩ ++ [.null]) }, ?_, ?_⟩
  · simp [drain, core, Host.counting]
  · constructor
    · simp [Store.setList]
    · intro l hl _
      have hne : l ≠ ⟨0⟩ := by
        rintro rfl
        simp at hl
      exact m.store.list_setList_of_ne hne _

/-- The iterable starts anew for each view, though it leaves traces elsewhere. A list of one item is
as long as its views, and reading it finds that item and no other. -/
theorem views_reads_cohere_counting :
    let ctx := Context.core "HostObject" .counting .standard .standard
    let m : Machine := ⟨⟨#[[], [.int 5]], #[]⟩, #[]⟩
    let keys : List Value := [.int 0, .int 1]
    let values : List Value := [.int 7, .int 8]
    let list : Value := .list ⟨1⟩
    (ctx.Lists 0 1 m (.iterable ⟨0⟩) keys values ∧
      ∃ shown m', ctx.run 3 (Context.viewAll (.iterable ⟨0⟩) [.keys, .entries, .values]) m =
          .returned shown m' ∧
        shown.map m'.store.list =
          [keys, [.pair (.int 0) (.int 7), .pair (.int 1) (.int 8)], values]) ∧
    (ctx.Lists 0 0 m list [.int 0] [.int 5] ∧
      (∃ m', ctx.run 3 (ctx.read list (.string "length") .identity) m =
        .returned (.found (.int 1)) m') ∧
      ctx.run 3 (ctx.read list (.int 0) .identity) m = .returned (.found (.int 5)) m ∧
      ∃ m', ctx.run 3 (ctx.read list (.int 1) .identity) m = .returned .missing m') := by
  intro ctx m keys values list
  constructor
  · have hlists : ctx.Lists 0 1 m (.iterable ⟨0⟩) keys values :=
      .iterable (Context.restarts_counting .standard .standard 0)
    obtain ⟨⟨-, hviews⟩, -⟩ := views_reads_cohere "HostObject" .counting .standard .standard hlists
      (by decide) (by decide : 0 + 2 < 3)
    obtain ⟨shown, m', hrun, hshown, -⟩ := hviews [.keys, .entries, .values]
    exact ⟨hlists, shown, m', hrun, hshown⟩
  · have hlists : ctx.Lists 0 0 m list [.int 0] [.int 5] :=
      .list (Nat.zero_le 1) (by decide)
    obtain ⟨-, hsequence, -, hcollection⟩ := views_reads_cohere "HostObject" .counting .standard
      .standard hlists (Nat.zero_le _) (by decide : 0 + 2 < 3)
    obtain ⟨-, hlength, -⟩ := hsequence rfl
    obtain ⟨-, hfound, hmissing⟩ := hcollection (.list ⟨1⟩) rfl (by decide)
    have hother : Value.int 1 ∉ [.int 0] := by
      intro hmem
      have heq := List.mem_singleton.1 hmem
      injection heq with heq
      injection heq with heq
      exact absurd heq (by decide)
    obtain ⟨m', hmiss, -⟩ := hmissing (.int 1) ⟨_, rfl⟩ hother
    exact ⟨hlists, hlength rfl, hfound 0 (.int 0) (.int 5) rfl rfl, m', hmiss⟩

end ScriptRealm
