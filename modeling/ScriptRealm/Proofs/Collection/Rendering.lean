import ScriptRealm.Proofs.Collection.Views
import ScriptRealm.Proofs.Dispatch.Builtins
import ScriptRealm.Proofs.Value.Unfolded

/-!
# Rendering ends

A store may hold collections that lead back to themselves, directly or through other lists, maps and
pairs. A walk through it ends all the same, with the stack as it began: it enters no collection that
it is inside of already, of which the store has finitely many, and between two collections it only
takes pairs apart. So the texts and numbers of all values are there, and a join of such texts is
too. What an iterable yields has no part in any text.
-/

namespace ScriptRealm

/-! ## Generic rendering -/

/-- Visits that each leave the machine as it is do so in a row. -/
theorem Program.run_mapM {α β : Type} {answer : (q : Query) → Machine → Ending q.Answer}
    {visit : α → Program β} {result : α → β} {m : Machine} {members : List α}
    (h : ∀ a ∈ members, (visit a).run answer m = .returned (result a) m) :
    (members.mapM visit).run answer m = .returned (members.map result) m := by
  induction members with
  | nil => rfl
  | cons a rest ih =>
    have hfirst := h a List.mem_cons_self
    have hrest := ih fun b hb => h b (List.mem_cons_of_mem a hb)
    simp [List.mapM_cons, hfirst, hrest]

namespace Context

/-- All prototypes have the generic coercion to text. -/
def DisplaysGenerically (ctx : Context) : Prop :=
  ∀ p ∈ ctx.realm.prototypes, p.asString = Store.display

/-- All prototypes have the default values. -/
def ListsByDefault (ctx : Context) : Prop :=
  ∀ p ∈ ctx.realm.prototypes, p.valueList = View.defaultValues

variable {ctx : Context}

/-- A coercion looks into the store and asks nothing. -/
theorem queries_displayText (ctx : Context) (v : Value)
    (answer : (q : Query) → Machine → Ending q.Answer) (m : Machine) :
    (ctx.displayText v).queries answer m = [] := rfl

namespace DisplaysGenerically

variable (h : ctx.DisplaysGenerically)

include h

theorem run_displayText (answer : (q : Query) → Machine → Ending q.Answer) (v : Value)
    (m : Machine) : (ctx.displayText v).run answer m = .returned (m.store.display v) m := by
  have hcoercion : ((ctx.realm.get? (ctx.classify v)).map Prototype.asString).getD Store.display =
      Store.display := by
    cases hget : ctx.realm.get? (ctx.classify v) with
    | none => rfl
    | some p => exact h p (mem_prototypes_of_get? hget)
  simp [displayText, coerce, hcoercion]

theorem answer_displayText (depth : Nat) (v : Value) (m : Machine) :
    ctx.answer (depth + 1) (.displayText v) m = .returned (m.store.display v) m :=
  h.run_displayText (ctx.answer depth) v m

end DisplaysGenerically

end Context

/-! ## Joins -/

/-- The text of an item in a join: undefined, null and the receiver itself have none. -/
def Store.itemText (s : Store) (this item : Value) : String :=
  if item.isNullish || item.eq this then "" else s.display item

/-- The text between the items of a join. -/
def Store.separator (s : Store) (args : List Value) : String :=
  match Value.argument args 0 with
  | .undefined => ","
  | v => s.display v

namespace Builtin.Sequence

variable {ctx : Context}

theorem run_itemText (h : ctx.DisplaysGenerically) (depth : Nat) (this item : Value) (m : Machine) :
    (itemText this item).run (ctx.answer (depth + 1)) m =
      .returned (m.store.itemText this item) m := by
  unfold itemText Store.itemText
  rcases item.isNullish || item.eq this with _ | _
  · exact (Program.run_ask _ m (.displayText item)).trans (h.answer_displayText depth item m)
  · rfl

/-- A join shows the values of the receiver as they are after they have been asked for. -/
theorem run_join (h : ctx.DisplaysGenerically) (depth : Nat) {this : Value} {l : ListRef}
    {m m₁ : Machine} (hvalues : ctx.answer (depth + 1) (.view .values this) m = .returned l m₁)
    (args : List Value) :
    (join this args).run (ctx.answer (depth + 1)) m =
      .returned (.string (Text.join (m.store.separator args)
        ((m₁.store.list l).map (m₁.store.itemText this)))) m₁ := by
  have hitems : (items this).run (ctx.answer (depth + 1)) m = .returned (m₁.store.list l) m₁ :=
    (Program.run_ask_bind hvalues _).trans rfl
  -- texts leave the machine alone, so all items are shown in the store that the values left
  have htexts := Program.run_mapM fun item (_ : item ∈ m₁.store.list l) =>
    run_itemText h depth this item m₁
  have hrest : ∀ separator : String, (do
      return .string (Text.join separator (← (← items this).mapM (itemText this))) :
        Program Value).run (ctx.answer (depth + 1)) m =
      .returned (.string (Text.join separator
        ((m₁.store.list l).map (m₁.store.itemText this)))) m₁ := by
    intro separator
    simp [hitems, htexts]
  unfold join Store.separator
  cases Value.argument args 0 with
  | undefined => exact hrest ","
  | _ => exact (Program.run_ask_bind (h.answer_displayText depth _ m) _).trans (hrest _)

end Builtin.Sequence

/-! ## Values of receivers -/

/-- All values but iterables list their values without asking anything. -/
theorem View.defaultValues_returns {this : Value} (hthis : ∀ i, this ≠ .iterable i) (owner : Owner)
    (answer : (q : Query) → Machine → Ending q.Answer) (m : Machine) :
    (∃ l m₁, (defaultValues owner this).run answer m = .returned l m₁) ∧
      (defaultValues owner this).queries answer m = [] := by
  cases this with
  | iterable i => exact absurd rfl (hthis i)
  | _ => exact ⟨⟨_, _, rfl⟩, rfl⟩

theorem Context.ListsByDefault.view_values_returns {ctx : Context} (h : ctx.ListsByDefault)
    {this : Value} (hthis : ∀ i, this ≠ .iterable i)
    (answer : (q : Query) → Machine → Ending q.Answer) (m : Machine) :
    (∃ l m₁, (ctx.view .values this).run answer m = .returned l m₁) ∧
      (ctx.view .values this).queries answer m = [] := by
  unfold view viewThrough
  cases hget : ctx.realm.get? (ctx.classify this) with
  | none => exact ⟨⟨_, _, rfl⟩, rfl⟩
  | some p =>
    have hvalues : p.supplier .values = View.defaultValues :=
      h p (mem_prototypes_of_get? hget)
    simp only [hvalues]
    exact View.defaultValues_returns hthis _ answer m

section

variable (hostObjectName : String) (host : Host) (converter : Converter) (config : Config)

theorem Context.displaysGenerically_core :
    (core hostObjectName host converter config).DisplaysGenerically := by
  intro p hp
  obtain ⟨role, rfl⟩ := Realm.exists_role hostObjectName hp
  rfl

theorem Context.listsByDefault_core :
    (core hostObjectName host converter config).ListsByDefault := by
  intro p hp
  obtain ⟨role, rfl⟩ := Realm.exists_role hostObjectName hp
  rfl

end

/-! ## Rendering -/

/-- The walks for the display text, the diagnostic text and the number of a value end on every
store, inside of whatever collections they begin, and hand the stack back as it was. Where the
coercions to text are the generic ones, `displayText` returns the text of the walk, and a join
returns a text whenever the values of its receiver can be listed; by default they can for every
receiver but an iterable. A join asks for those values and for texts only. Texts ask nothing in
their turn, nor does such a listing, so no iterable is drained. -/
theorem rendering_terminates (ctx : Context) (h : ctx.DisplaysGenerically) (v : Value)
    (args : List Value) (depth : Nat) (m : Machine) :
    let join := Builtin.Sequence.join v args
    (∀ path, (∃ text, (m.store.displayWalk v).run path = some (text, path)) ∧
      (∃ text, (m.store.describeWalk v).run path = some (text, path)) ∧
      ∃ n, (m.store.numberWalk v).run path = some (n, path)) ∧
    (∃ text, (m.store.displayWalk v).run [] = some (text, []) ∧
      ctx.run depth (ctx.displayText v) m = .returned text m) ∧
    (∀ l m₁, ctx.answer (depth + 1) (.view .values v) m = .returned l m₁ →
      ∃ text, ctx.run (depth + 1) join m = .returned (.string text) m₁) ∧
    (∀ answer, ∀ q ∈ join.queries answer m, q = .view .values v ∨ ∃ w, q = .displayText w) ∧
    (∀ answer w, (ctx.handle (.displayText w)).queries answer m = []) ∧
    (ctx.ListsByDefault → (∀ i, v ≠ .iterable i) →
      (∃ text m₁, ctx.run (depth + 1) join m = .returned (.string text) m₁) ∧
        ∀ answer, (ctx.handle (.view .values v)).queries answer m = []) := by
  intro join
  have hjoin : ∀ l m₁, ctx.answer (depth + 1) (.view .values v) m = .returned l m₁ →
      ∃ text, ctx.run (depth + 1) join m = .returned (.string text) m₁ :=
    fun l m₁ hvalues => ⟨_, Builtin.Sequence.run_join h depth hvalues args⟩
  refine ⟨fun path => ⟨⟨_, m.store.run_displayWalk path v⟩, ⟨_, m.store.run_describeWalk path v⟩,
    ⟨_, m.store.run_numberWalk path v⟩⟩, ?_, hjoin,
    fun answer q hq => (Builtin.Sequence.asksOnly_join v args).of_mem_queries hq,
    fun answer w => ctx.queries_displayText w answer m, ?_⟩
  · have hwalk := m.store.run_displayWalk [] v
    refine ⟨_, hwalk, ?_⟩
    rw [Context.run, h.run_displayText, Store.display, Walk.outcome_eq hwalk]
  · intro hlists hiterable
    have hvalues := fun answer => hlists.view_values_returns hiterable answer m
    obtain ⟨l, m₁, hreturned⟩ := (hvalues (ctx.answer depth)).1
    obtain ⟨text, htext⟩ := hjoin l m₁ hreturned
    exact ⟨⟨text, m₁, htext⟩, fun answer => (hvalues answer).2⟩

/-- Two lists and two maps: the first list leads back to itself through a pair, the maps through
each other, and each kind through the other one. -/
def Store.entangled : Store :=
  ⟨#[[.pair (.list ⟨1⟩) (.list ⟨0⟩), .map ⟨0⟩], [.list ⟨0⟩, .iterable ⟨0⟩]],
    #[.ofList [("other", .map ⟨1⟩)], .ofList [("back", .map ⟨0⟩), ("list", .list ⟨0⟩)]]⟩

/-- The first list and the first map of the store have texts and numbers, and the list is joined. -/
theorem rendering_terminates_entangled :
    let ctx := Context.core "HostObject" .empty .standard .standard
    let m : Machine := ⟨.entangled, #[]⟩
    (∃ text, (m.store.displayWalk (.list ⟨0⟩)).run [] = some (text, [])) ∧
      (∃ text, (m.store.describeWalk (.map ⟨0⟩)).run [] = some (text, [])) ∧
      ∃ text m₁, ctx.run 1 (Builtin.Sequence.join (.list ⟨0⟩) []) m =
        .returned (.string text) m₁ := by
  intro ctx m
  have h : ctx.DisplaysGenerically := Context.displaysGenerically_core "HostObject" _ _ _
  have hlists : ctx.ListsByDefault := Context.listsByDefault_core "HostObject" _ _ _
  obtain ⟨hlist, -, -, -, -, hjoin⟩ := rendering_terminates ctx h (.list ⟨0⟩) [] 0 m
  obtain ⟨hmap, -⟩ := rendering_terminates ctx h (.map ⟨0⟩) [] 0 m
  exact ⟨(hlist []).1, (hmap []).2.1, (hjoin hlists (by simp)).1⟩

end ScriptRealm
