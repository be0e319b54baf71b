import ScriptRealm.Proofs.Collection.Rendering
import ScriptRealm.Proofs.Dispatch.Methods
import ScriptRealm.Proofs.Value.Enclosed

/-!
# Two texts of a list

A list has a text by its own method `join` and one by the method `toString` of the root. The first
one shows each item by itself and leaves out the list where it is an item of itself; the second one
shows each item inside of the list. They differ where a list is reached again from one of its items.
-/

namespace ScriptRealm

/-! ## Queries for texts -/

namespace Context

variable (hostObjectName : String) (host : Host) (converter : Converter) (config : Config)
  (answer : (q : Query) → Machine → Ending q.Answer) (m : Machine)

theorem run_displayText_core (v : Value) :
    ((core hostObjectName host converter config).displayText v).run answer m =
      .returned (m.store.display v) m :=
  (displaysGenerically_core hostObjectName host converter config).run_displayText answer v m

/-! ## Methods of lists -/

/-- Where tables are looked up by the names of members, a list has the functions of its own
prototype and those of the root. -/
theorem tableMembers_invoke_list (l : ListRef) (name : String) (hkey : config.tableKey = .member) :
    let ctx := core hostObjectName host converter config
    ctx.tableMembers (ctx.classify (.list l)) .invoke (.string name) =
      ((Assoc.ofList Builtin.Sequence.members.functions).find? name).toList ++
        ((Assoc.ofList Builtin.Object.members.functions).find? name).toList := by
  intro ctx
  have hrole := classify_collection hostObjectName host converter config (.list l)
  -- neither prototype has static functions
  have hfunctions : ∀ role, (Builtin.members role).staticFunctions = [] →
      (Builtin.prototype hostObjectName role).invocable name =
        ((Assoc.ofList (Builtin.members role).functions).find? name).toList := by
    intro role hstatic
    have hnone : (Builtin.prototype hostObjectName role).staticFunctions.find? name = none :=
      congrArg (fun entries => (Assoc.ofList entries).find? name) hstatic
    rw [Prototype.invocable, hnone, Option.toList_none, List.append_nil]
    rfl
  refine (tableMembers_invoke hkey hrole name).trans ?_
  simp only [Builtin.callables, Handle.role, Builtin.roleParent, Option.toList_some,
    List.flatMap_cons, List.flatMap_nil, List.append_nil, hfunctions .array rfl,
    hfunctions .object rfl, Builtin.members]

/-- A call of a list's only member of a name has what the member returns for its answer. -/
theorem run_invoke_list {l : ListRef} {name : String} {call : Value → List Value → Program Value}
    (args : List Value)
    (htable : let ctx := core hostObjectName host converter config
      ctx.tableMembers (ctx.classify (.list l)) .invoke (.string name) = [.method call]) :
    ((core hostObjectName host converter config).invoke (.list l) (.string name) args
      .identity).run answer m =
      ((call (.list l) args).run answer m).andThen fun v m => .returned (.found v) m :=
  run_invoke_of_tableMembers answer m rfl htable args

/-! ## The two texts -/

/-- The text of an item in a join of a list: the list itself has none. -/
def itemText (s : Store) (l : ListRef) (v : Value) : String :=
  if v.isNullish || v.eq (.list l) then "" else s.display v

/-- The text by `join` shows each item by itself. -/
theorem run_join_core (depth : Nat) (l : ListRef) {args : List Value}
    (hargs : Value.argument args 0 = .undefined) :
    let ctx := core hostObjectName host converter config
    (Builtin.Sequence.join (.list l) args).run (ctx.answer (depth + 1)) m =
      .returned (.string (Text.join "," ((m.store.list l).map (itemText m.store l)))) m := by
  intro ctx
  have hclassify := classify_collection hostObjectName host converter config (.list l)
  have hview := answer_view_core hostObjectName host converter config depth hclassify .values m
  have hvalues : ctx.answer (depth + 1) (.view .values (.list l)) m = .returned l m :=
    hview.trans rfl
  have hjoin := Builtin.Sequence.run_join
    (displaysGenerically_core hostObjectName host converter config) depth hvalues args
  have hseparator : m.store.separator args = "," := by rw [Store.separator, hargs]
  rwa [hseparator] at hjoin

/-- The text by `toString` is the text of the whole list. -/
theorem run_toText_core (depth : Nat) (v : Value) (args : List Value) :
    let ctx := core hostObjectName host converter config
    (Builtin.Object.toText v args).run (ctx.answer (depth + 1)) m =
      .returned (.string (m.store.display v)) m := by
  intro ctx
  have hdisplay : ctx.answer (depth + 1) (.displayText v) m = .returned (m.store.display v) m :=
    run_displayText_core hostObjectName host converter config _ m v
  exact (Program.run_ask_bind hdisplay _).trans rfl

end Context

/-! ## Agreement -/

theorem Value.eq_list_iff (v : Value) (l : ListRef) : v.eq (.list l) = true ↔ v = .list l := by
  cases v with
  | list k =>
    cases k
    cases l
    simp [Value.eq]
  | _ => simp [Value.eq]

namespace Store

variable {s : Store} {l : ListRef}

theorem display_list (s : Store) (l : ListRef) :
    s.display (.list l) =
      Text.join "," ((s.list l).map fun v => (s.unfoldAt [.list l] v).display) := by
  rw [display_eq, unfold, display_unfoldAt_list (by simp)]

/-- An item that is the list itself has no text in either of the two. -/
theorem display_unfoldAt_eq_itemText_iff {v : Value} (h : v.isNullish = false) :
    (s.unfoldAt [.list l] v).display = Context.itemText s l v ↔
      (v ≠ .list l → (s.unfoldAt [.list l] v).display = s.display v) := by
  rw [Context.itemText, h, Bool.false_or]
  by_cases hself : v = .list l
  · subst hself
    have hempty : (s.unfoldAt [.list l] (.list l)).display = "" :=
      display_unfoldAt_enclosed (by simp)
    simp [hempty, Value.eq]
  · have hne : v.eq (.list l) = false := by
      rwa [← Bool.not_eq_true, Value.eq_list_iff]
    simp [hne, hself]

theorem within_itemText {v : Value} (h : v.isNullish = false) :
    Text.Within (s.unfoldAt [.list l] v).display (Context.itemText s l v) := by
  by_cases hself : v = .list l
  · rw [(display_unfoldAt_eq_itemText_iff h).2 fun hne => absurd hself hne]
    exact .refl _
  · have hne : v.eq (.list l) = false := by
      rwa [← Bool.not_eq_true, Value.eq_list_iff]
    rw [Context.itemText, h, hne, Bool.false_or, if_neg (by simp), display_eq, unfold]
    exact within_unfoldAt (List.nil_subset _) v

end Store

/-- Where no item is undefined or null, `toString` and `join` without a separator find texts of a
list of which the first is the second with characters left out. They are equal exactly if each item
other than the list itself has the same text inside of the list as by itself; so they are if none of
these items leads back to the list through lists and pairs. -/
theorem join_eq_toString_iff (hostObjectName : String) (host : Host) (converter : Converter)
    (config : Config) (depth : Nat) (l : ListRef) (args : List Value) (m : Machine)
    (hkey : config.tableKey = .member) (hargs : Value.argument args 0 = .undefined)
    (hnullish : ∀ v ∈ m.store.list l, v.isNullish = false) :
    let ctx := Context.core hostObjectName host converter config
    let call (method : String) :=
      (ctx.invoke (.list l) (.string method) args .identity).run (ctx.answer (depth + 1)) m
    ∃ joined shown : String,
      call "join" = .returned (.found (.string joined)) m ∧
      call "toString" = .returned (.found (.string shown)) m ∧
      Text.Within shown joined ∧
      (joined = shown ↔ ∀ v ∈ m.store.list l, v ≠ .list l →
        (m.store.unfoldAt [.list l] v).display = m.store.display v) ∧
      ((∀ v ∈ m.store.list l, v ≠ .list l → ¬m.store.Reaches v l) → joined = shown) := by
  intro ctx call
  have hjoin := Context.run_invoke_list hostObjectName host converter config
    (ctx.answer (depth + 1)) m args
    (Context.tableMembers_invoke_list hostObjectName host converter config l "join" hkey)
  have htext := Context.run_invoke_list hostObjectName host converter config
    (ctx.answer (depth + 1)) m args
    (Context.tableMembers_invoke_list hostObjectName host converter config l "toString" hkey)
  rw [Context.run_join_core hostObjectName host converter config m depth l hargs] at hjoin
  rw [Context.run_toText_core] at htext
  -- item by item, a join shows what the text shows, and perhaps more
  have hwithin : ∀ v ∈ m.store.list l,
      Text.Within (m.store.unfoldAt [.list l] v).display (Context.itemText m.store l v) :=
    fun v hv => Store.within_itemText (hnullish v hv)
  -- so the two are the same exactly if no item shows more
  have hiff : Text.join "," ((m.store.list l).map (Context.itemText m.store l)) =
      m.store.display (.list l) ↔ ∀ v ∈ m.store.list l, v ≠ .list l →
        (m.store.unfoldAt [.list l] v).display = m.store.display v := by
    rw [eq_comm, Store.display_list, Text.join_eq_join_iff "," hwithin]
    exact forall₂_congr fun v hv => Store.display_unfoldAt_eq_itemText_iff (hnullish v hv)
  refine ⟨_, _, hjoin, htext, ?_, hiff, fun hreach => hiff.2 fun v hv hne => ?_⟩
  · rw [Store.display_list]
    exact Text.within_join "," hwithin
  · rw [Store.display_eq, Store.unfold]
    exact Store.display_unfoldAt_of_not_reaches (by simp) (hreach v hv hne)

/-- A list with a number, another list twice, and itself. -/
def Store.selfListing : Store :=
  ⟨#[[.int 1, .list ⟨1⟩, .list ⟨1⟩, .list ⟨0⟩], [.int 2, .int 3]], #[]⟩

theorem Store.not_reaches_selfListing : ¬selfListing.Reaches (.list ⟨1⟩) ⟨0⟩ := by
  intro h
  cases h with
  | @item _ _ v hv h =>
    have hnumber : v = .int 2 ∨ v = .int 3 := by simpa [list, selfListing] using hv
    rcases hnumber with rfl | rfl <;> cases h

/-- Both texts of the list show the other list twice, and nothing for the list itself. -/
theorem join_eq_toString_iff_selfListing :
    let ctx := Context.core "HostObject" .empty .standard .standard
    let m : Machine := ⟨.selfListing, #[]⟩
    (∀ v ∈ m.store.list ⟨0⟩, v.isNullish = false) ∧
    ∃ text,
      (ctx.invoke (.list ⟨0⟩) (.string "join") [] .identity).run (ctx.answer 1) m =
        .returned (.found (.string text)) m ∧
      (ctx.invoke (.list ⟨0⟩) (.string "toString") [] .identity).run (ctx.answer 1) m =
        .returned (.found (.string text)) m := by
  intro ctx m
  have hnullish : ∀ v ∈ m.store.list ⟨0⟩, v.isNullish = false := by decide
  obtain ⟨joined, shown, hjoin, htext, -, -, hagree⟩ := join_eq_toString_iff "HostObject" .empty
    .standard .standard 0 ⟨0⟩ [] m rfl rfl hnullish
  have hreach : ∀ v ∈ m.store.list ⟨0⟩, v ≠ .list ⟨0⟩ → ¬m.store.Reaches v ⟨0⟩ := by
    intro v hv hne
    have hitem : v = .int 1 ∨ v = .list ⟨1⟩ ∨ v = .list ⟨0⟩ := by
      simpa [Store.list, Store.selfListing, m] using hv
    rcases hitem with rfl | rfl | rfl
    · rintro ⟨⟩
    · exact Store.not_reaches_selfListing
    · exact absurd rfl hne
  obtain rfl := hagree hreach
  exact ⟨hnullish, joined, hjoin, htext⟩

/-- Two lists that hold each other, the first of them with a number in front. -/
def Store.mutual : Store :=
  ⟨#[[.int 1, .list ⟨1⟩], [.list ⟨0⟩]], #[]⟩

theorem Store.display_unfoldAt_one (s : Store) (path : List Handle) :
    (s.unfoldAt path (.int 1)).display = "1" := by
  have hone : (Int64.ofInt 1).toInt = 1 := by decide
  rw [Value.int, unfoldAt, Tree.display, Number.text, hone, Numeral.signed, if_neg (by decide),
    Numeral.numeral_of_lt (by decide)]
  rfl

/-- Each of the two lists leaves itself out where the other one encloses it. -/
theorem Store.display_mutual :
    Store.mutual.display (.list ⟨0⟩) = "1," ∧ Store.mutual.display (.list ⟨1⟩) = "1," := by
  have hfirst : Store.mutual.list ⟨0⟩ = [.int 1, .list ⟨1⟩] := rfl
  have hsecond : Store.mutual.list ⟨1⟩ = [.list ⟨0⟩] := rfl
  constructor <;> simp [display_list, hfirst, hsecond, display_unfoldAt_one,
    display_unfoldAt_list, display_unfoldAt_enclosed, Text.join]

theorem Store.map_itemText_mutual :
    (Store.mutual.list ⟨0⟩).map (Context.itemText Store.mutual ⟨0⟩) = ["1", "1,"] := by
  have hone : Store.mutual.display (.int 1) = "1" :=
    (Store.mutual.display_eq _).trans (Store.mutual.display_unfoldAt_one [])
  have hshown : ∀ v ∈ Store.mutual.list ⟨0⟩, (v.isNullish || v.eq (.list ⟨0⟩)) = false := by decide
  have hitems : (Store.mutual.list ⟨0⟩).map (Context.itemText Store.mutual ⟨0⟩) =
      (Store.mutual.list ⟨0⟩).map Store.mutual.display :=
    List.map_congr_left fun v hv => by rw [Context.itemText, hshown v hv, if_neg (by simp)]
  have hlist : Store.mutual.list ⟨0⟩ = [.int 1, .list ⟨1⟩] := rfl
  rw [hitems, hlist, List.map_cons, List.map_singleton, hone, Store.display_mutual.2]

/-- Of two lists that hold each other, the text by `join` shows the first one again inside of the
second, and the text by `toString` does not. -/
theorem join_shows_enclosing_list :
    let ctx := Context.core "HostObject" .empty .standard .standard
    let m : Machine := ⟨.mutual, #[]⟩
    (∀ v ∈ m.store.list ⟨0⟩, v.isNullish = false) ∧
    (ctx.invoke (.list ⟨0⟩) (.string "join") [] .identity).run (ctx.answer 1) m =
      .returned (.found (.string "1,1,")) m ∧
    (ctx.invoke (.list ⟨0⟩) (.string "toString") [] .identity).run (ctx.answer 1) m =
      .returned (.found (.string "1,")) m := by
  intro ctx m
  have hjoin := Context.run_invoke_list "HostObject" .empty .standard .standard (ctx.answer 1) m []
    (Context.tableMembers_invoke_list "HostObject" .empty .standard .standard ⟨0⟩ "join" rfl)
  have htext := Context.run_invoke_list "HostObject" .empty .standard .standard (ctx.answer 1) m []
    (Context.tableMembers_invoke_list "HostObject" .empty .standard .standard ⟨0⟩ "toString" rfl)
  rw [Context.run_join_core "HostObject" .empty .standard .standard m 0 ⟨0⟩ rfl] at hjoin
  rw [Context.run_toText_core] at htext
  have hitems : (m.store.list ⟨0⟩).map (Context.itemText m.store ⟨0⟩) = ["1", "1,"] :=
    Store.map_itemText_mutual
  have hshown : m.store.display (.list ⟨0⟩) = "1," := Store.display_mutual.1
  rw [hitems] at hjoin
  rw [hshown] at htext
  exact ⟨by decide, hjoin, htext⟩

end ScriptRealm
