import ScriptRealm.Proofs.Collection.Dispatch
import ScriptRealm.Proofs.Depth

/-!
# Views

The keys, values and entries of lists, maps, pairs and iterables in the core realm. A view is a
fresh list or the receiver itself. The invariant is that the lists from some address on are left
alone: the receiver keeps its content, and so does each list that was made for a view, whatever is
viewed next.
-/

namespace ScriptRealm

/-- A program that goes on with the answer to a query. -/
theorem Program.run_ask_bind {β : Type} {answer : (q : Query) → Machine → Ending q.Answer}
    {q : Query} {a : q.Answer} {m m' : Machine} (h : answer q m = .returned a m')
    (f : q.Answer → Program β) :
    ((Program.ask q).bind f).run answer m = (f a).run answer m' := by
  rw [run_bind, run_ask, h]
  rfl

/-- The views with which a prototype starts out. -/
def View.standard : View → ViewSupplier
  | .keys => defaultKeys
  | .values => defaultValues
  | .entries => defaultEntries

/-- A well-known prototype as the owner of its views. -/
def Builtin.owner (hostObjectName : String) (role : Role) : Owner :=
  ⟨roleId role, roleName hostObjectName role⟩

/-- What a view lists, given the keys and the values. -/
def View.content (keys values : List Value) : View → List Value
  | .keys => keys
  | .values => values
  | .entries => List.zipWith .pair keys values

/-- A later machine: there may be more lists, and those of the earlier one from the address `start`
on are as they were. -/
structure Machine.Keeps (start : Nat) (m m' : Machine) : Prop where
  size_le : m.store.lists.size ≤ m'.store.lists.size
  list : ∀ l : ListRef, start ≤ l.index → l.index < m.store.lists.size →
    m'.store.list l = m.store.list l

namespace Machine

variable {start : Nat} {m m' m'' : Machine}

theorem Keeps.refl (start : Nat) (m : Machine) : m.Keeps start m :=
  ⟨Nat.le_refl _, fun _ _ _ => rfl⟩

theorem Keeps.trans (h : m.Keeps start m') (h' : m'.Keeps start m'') : m.Keeps start m'' where
  size_le := Nat.le_trans h.size_le h'.size_le
  list l hstart hl :=
    (h'.list l hstart (Nat.lt_of_lt_of_le hl h.size_le)).trans (h.list l hstart hl)

/-- A machine with one more list. -/
def newList (m : Machine) (items : List Value) : Machine :=
  { m with store := (m.store.newList items).2 }

theorem keeps_newList (start : Nat) (m : Machine) (items : List Value) :
    m.Keeps start (m.newList items) where
  size_le := by simp [newList, Store.newList]
  list _ _ hl := m.store.list_newList_of_lt hl items

end Machine

namespace Context

/-! ## Receivers -/

/-- An iterable starts anew whenever it is drained: it yields the same items, and leaves the lists
from the address `start` on alone. -/
def Restarts (ctx : Context) (depth start : Nat) (i : IterableRef) (items : List Value) : Prop :=
  ∀ m : Machine, start ≤ m.store.lists.size →
    ∃ m', (ctx.drain i).run (ctx.answer depth) m = .returned items m' ∧ m.Keeps start m'

/-- The keys and the values of a receiver. An iterable has them only if it yields the same items
each time. -/
inductive Lists (ctx : Context) (depth start : Nat) (m : Machine) :
    Value → List Value → List Value → Prop
  | list {l : ListRef} (hstart : start ≤ l.index) (hl : l.index < m.store.lists.size) :
      Lists ctx depth start m (.list l) (View.positions (m.store.list l).length) (m.store.list l)
  | map (r : MapRef) :
      Lists ctx depth start m (.map r) ((m.store.map r).keys.map .string) (m.store.map r).values
  | pair (a b : Value) : Lists ctx depth start m (.pair a b) (View.positions 2) [a, b]
  | iterable {i : IterableRef} {items : List Value} (hrestarts : ctx.Restarts depth start i items) :
      Lists ctx depth start m (.iterable i) (View.positions items.length) items

variable {ctx : Context} {depth start : Nat} {m m' : Machine} {this : Value}
  {keys values : List Value}

theorem Lists.length_eq (h : ctx.Lists depth start m this keys values) :
    keys.length = values.length := by
  cases h <;> simp [View.positions, Assoc.keys, Assoc.values]

/-- A fresh list changes neither the keys nor the values of a receiver. -/
theorem Lists.newList (h : ctx.Lists depth start m this keys values) (items : List Value) :
    ctx.Lists depth start (m.newList items) this keys values := by
  have hkeeps := m.keeps_newList start items
  cases h with
  | list hstart hl =>
    have hsame := hkeeps.list _ hstart hl
    have hlists : ctx.Lists depth start (m.newList items) (.list _) _ _ :=
      .list hstart (Nat.lt_of_lt_of_le hl hkeeps.size_le)
    rwa [hsame] at hlists
  | map r => exact .map r
  | pair a b => exact .pair a b
  | iterable hrestarts => exact .iterable hrestarts

/-! ## Single views -/

/-- A list that shows a content of the receiver, on a machine that has left the receiver as it was.
-/
structure Shown (ctx : Context) (depth start : Nat) (m : Machine) (this : Value)
    (keys values content : List Value) (l : ListRef) (m' : Machine) : Prop where
  list_eq : m'.store.list l = content
  start_le : start ≤ l.index
  lt_size : l.index < m'.store.lists.size
  keeps : m.Keeps start m'
  lists : ctx.Lists depth start m' this keys values

/-- A run ends with a list that shows a content of the receiver. -/
def Shows (ctx : Context) (depth start : Nat) (m : Machine) (this : Value)
    (keys values content : List Value) (ending : Ending ListRef) : Prop :=
  ∃ l m', ending = .returned l m' ∧ ctx.Shown depth start m this keys values content l m'

theorem Lists.shows_newList (hlists : ctx.Lists depth start m' this keys values)
    (hkeeps : m.Keeps start m') (hstart : start ≤ m.store.lists.size) (items : List Value) :
    ctx.Shows depth start m this keys values items
      (.returned (m'.store.newList items).1 (m'.newList items)) := by
  refine ⟨_, _, rfl, ?_⟩
  exact {
    list_eq := m'.store.list_newList_self items
    start_le := Nat.le_trans hstart hkeeps.size_le
    lt_size := by simp [Machine.newList, Store.newList]
    keeps := hkeeps.trans (m'.keeps_newList start items)
    lists := hlists.newList items }

/-- An iterable yields its items at every depth that is great enough. -/
theorem Restarts.answer {i : IterableRef} {items : List Value} {d : Nat}
    (h : ctx.Restarts depth start i items) (hd : depth < d)
    (hstart : start ≤ m.store.lists.size) :
    ∃ m', ctx.answer d (.drain i) m = .returned items m' ∧ m.Keeps start m' := by
  obtain ⟨m', hrun, hkeeps⟩ := h m hstart
  obtain ⟨more, rfl⟩ := Nat.exists_eq_add_of_lt hd
  have hfinished : (ctx.run depth (ctx.drain i) m).Finished := by
    rw [run, hrun]
    trivial
  have hdeeper := ctx.run_add_of_finished depth more (ctx.drain i) hfinished
  exact ⟨m', hdeeper.trans hrun, hkeeps⟩

theorem Lists.shows_keys {d : Nat} (h : ctx.Lists depth start m this keys values)
    (hd : depth < d) (hstart : start ≤ m.store.lists.size) (owner : Owner) :
    ctx.Shows depth start m this keys values keys
      ((View.defaultKeys owner this).run (ctx.answer d) m) := by
  have hfresh := h.shows_newList (Machine.Keeps.refl start m) hstart keys
  cases h with
  | list => exact hfresh
  | map => exact hfresh
  | pair => exact hfresh
  | iterable hrestarts =>
    rename_i i
    obtain ⟨m', hdrain, hkeeps⟩ := hrestarts.answer hd hstart
    have hrun : (View.defaultKeys owner (.iterable i)).run (ctx.answer d) m =
        .returned (m'.store.newList (View.positions values.length)).1
          (m'.newList (View.positions values.length)) := by
      exact (Program.run_ask_bind hdrain _).trans rfl
    rw [hrun]
    exact (Lists.iterable hrestarts).shows_newList hkeeps hstart _

theorem Lists.shows_values {d : Nat} (h : ctx.Lists depth start m this keys values)
    (hd : depth < d) (hstart : start ≤ m.store.lists.size) (owner : Owner) :
    ctx.Shows depth start m this keys values values
      ((View.defaultValues owner this).run (ctx.answer d) m) := by
  have hfresh := h.shows_newList (Machine.Keeps.refl start m) hstart values
  cases h with
  | list hle hl => exact ⟨_, m, rfl, rfl, hle, hl, .refl start m, .list hle hl⟩
  | map => exact hfresh
  | pair => exact hfresh
  | iterable hrestarts =>
    rename_i i
    obtain ⟨m', hdrain, hkeeps⟩ := hrestarts.answer hd hstart
    have hrun : (View.defaultValues owner (.iterable i)).run (ctx.answer d) m =
        .returned (m'.store.newList values).1 (m'.newList values) := by
      exact (Program.run_ask_bind hdrain _).trans rfl
    rw [hrun]
    exact (Lists.iterable hrestarts).shows_newList hkeeps hstart _

/-! ## Views in the core realm -/

section Core

variable (hostObjectName : String) (host : Host) (converter : Converter) (config : Config)

/-- Values other than host objects are served by the well-known prototype of their shape. -/
theorem classify_core {v : Value} (h : ∀ o, v ≠ .object o) :
    (core hostObjectName host converter config).classify v =
      Builtin.roleId (Realm.roleOf v) := by
  have hrole := Realm.wellKnown_core hostObjectName (Realm.roleOf v)
  cases v with
  | object o => exact absurd rfl (h o)
  | _ => exact hrole

/-- The prototypes of the core realm have the standard views. -/
theorem viewThrough_core (role : Role) (view : View) (this : Value) :
    (core hostObjectName host converter config).viewThrough (Builtin.roleId role) view this =
      View.standard view (Builtin.owner hostObjectName role) this := by
  have hget : (core hostObjectName host converter config).realm.get? (Builtin.roleId role) =
      some (Builtin.prototype hostObjectName role) := Realm.get?_core hostObjectName role
  rw [viewThrough, hget]
  cases view <;> rfl

/-- The answer to a query for a view through a prototype of the core realm. -/
theorem answer_viewThrough_core (d : Nat) (role : Role) (view : View) (this : Value) (m : Machine) :
    let ctx := core hostObjectName host converter config
    ctx.answer (d + 1) (.viewThrough (.handle (Builtin.roleId role)) view this) m =
      (View.standard view (Builtin.owner hostObjectName role) this).run
        (ctx.answer d) m := by
  intro ctx
  rw [← viewThrough_core hostObjectName host converter config]
  rfl

/-- The answer to a query for a view of a value that a well-known prototype serves. -/
theorem answer_view_core (d : Nat) {role : Role} {this : Value}
    (h : (core hostObjectName host converter config).classify this = Builtin.roleId role)
    (view : View) (m : Machine) :
    let ctx := core hostObjectName host converter config
    ctx.answer (d + 1) (.view view this) m =
      (View.standard view (Builtin.owner hostObjectName role) this).run (ctx.answer d) m := by
  intro ctx
  rw [← viewThrough_core hostObjectName host converter config, ← h]
  rfl

variable {hostObjectName host converter config} {d : Nat}

/-- The entries pair what the other two views of the same prototype show. -/
theorem Lists.shows_entries
    (h : (core hostObjectName host converter config).Lists depth start m this keys values)
    (hd : depth + 1 < d) (hstart : start ≤ m.store.lists.size) (role : Role) :
    let ctx := core hostObjectName host converter config
    ctx.Shows depth start m this keys values (List.zipWith .pair keys values)
      ((View.defaultEntries (Builtin.owner hostObjectName role) this).run
        (ctx.answer d) m) := by
  intro ctx
  obtain ⟨d, rfl⟩ : ∃ d', d = d' + 1 := ⟨d - 1, by omega⟩
  let owner := Builtin.owner hostObjectName role
  have hask := answer_viewThrough_core hostObjectName host converter config d role
  obtain ⟨k, m₁, hkeys, hk⟩ := h.shows_keys (by omega : depth < d) hstart owner
  obtain ⟨v, m₂, hvalues, hv⟩ :=
    hk.lists.shows_values (by omega : depth < d) (Nat.le_trans hstart hk.keeps.size_le) owner
  -- the list of keys is kept while the values are listed
  have hlist : m₂.store.list k = keys :=
    (hv.keeps.list k hk.start_le hk.lt_size).trans hk.list_eq
  have haskKeys := (hask .keys this m).trans hkeys
  have haskValues := (hask .values this m₁).trans hvalues
  have hzip : (do
      let keys ← Program.list k
      let values ← Program.list v
      if keys.length = values.length then Program.newList (List.zipWith .pair keys values)
      else Program.newList [] : Program ListRef).run (ctx.answer (d + 1)) m₂ =
      .returned (m₂.store.newList (List.zipWith .pair keys values)).1
        (m₂.newList (List.zipWith .pair keys values)) := by
    simp [hlist, hv.list_eq, h.length_eq, Machine.newList]
  have hrun : (View.defaultEntries owner this).run (ctx.answer (d + 1)) m =
      .returned (m₂.store.newList (List.zipWith .pair keys values)).1
        (m₂.newList (List.zipWith .pair keys values)) := by
    refine (Program.run_ask_bind haskKeys _).trans ?_
    refine (Program.run_ask_bind haskValues _).trans ?_
    exact hzip
  rw [hrun]
  exact hv.lists.shows_newList (hk.keeps.trans hv.keeps) hstart _

/-- The prototype that serves a receiver is a well-known one. -/
theorem Lists.classify_eq
    (h : (core hostObjectName host converter config).Lists depth start m this keys values) :
    (core hostObjectName host converter config).classify this =
      Builtin.roleId (Realm.roleOf this) := by
  refine classify_core hostObjectName host converter config ?_
  rintro o rfl
  cases h

theorem Lists.shows_view
    (h : (core hostObjectName host converter config).Lists depth start m this keys values)
    (hd : depth + 2 < d) (hstart : start ≤ m.store.lists.size) (view : View) :
    let ctx := core hostObjectName host converter config
    ctx.Shows depth start m this keys values (view.content keys values)
      (ctx.answer d (.view view this) m) := by
  intro ctx
  obtain ⟨d, rfl⟩ : ∃ d', d = d' + 1 := ⟨d - 1, by omega⟩
  let role := Realm.roleOf this
  rw [answer_view_core hostObjectName host converter config d h.classify_eq]
  cases view with
  | keys => exact h.shows_keys (by omega) hstart (Builtin.owner hostObjectName role)
  | values => exact h.shows_values (by omega) hstart (Builtin.owner hostObjectName role)
  | entries => exact h.shows_entries (by omega) hstart role

/-! ## Views one after the other -/

/-- Asks for a view of a receiver. -/
def askView (this : Value) (view : View) : Program ListRef :=
  Program.ask (.view view this)

/-- Asks for views of a receiver, one after the other. -/
def viewAll (this : Value) (views : List View) : Program (List ListRef) :=
  views.mapM (askView this)

/-- Views in any number and order are shown, and each of them still lists what it did when all of
them have been made. The receiver stays as it was. -/
theorem Lists.run_viewAll
    (h : (core hostObjectName host converter config).Lists depth start m this keys values)
    (hd : depth + 2 < d) (hstart : start ≤ m.store.lists.size) (views : List View) :
    let ctx := core hostObjectName host converter config
    ∃ shown m', (viewAll this views).run (ctx.answer d) m = .returned shown m' ∧
      shown.map m'.store.list = views.map (View.content keys values) ∧
      m.Keeps start m' ∧ ctx.Lists depth start m' this keys values := by
  intro ctx
  induction views generalizing m with
  | nil => exact ⟨[], m, rfl, rfl, .refl start m, h⟩
  | cons view rest ih =>
    obtain ⟨l, m₁, hview, hl⟩ := h.shows_view hd hstart view
    obtain ⟨shown, m₂, hrest, hshown, hkeeps, hlists⟩ :=
      ih hl.lists (Nat.le_trans hstart hl.keeps.size_le)
    have hkept : m₂.store.list l = view.content keys values :=
      (hkeeps.list l hl.start_le hl.lt_size).trans hl.list_eq
    refine ⟨l :: shown, m₂, ?_, ?_, hl.keeps.trans hkeeps, hlists⟩
    · rw [viewAll] at hrest
      rw [viewAll, List.mapM_cons]
      refine (Program.run_ask_bind hview _).trans ?_
      rw [Program.run_bind_eq, hrest]
      rfl
    · rw [List.map_cons, List.map_cons, hkept, hshown]

end Core

end Context

end ScriptRealm
