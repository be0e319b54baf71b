import ScriptRealm.Proofs.Collection.Content

/-!
# Writes convert first

A write into a collection looks for its place, has the value converted, and then looks for the place
again, for a conversion may run any code and change any collection. It stores only where the second
look finds the place. All this is said for whatever answers the converter gives, so for those that
fail, and for those that shrink, grow or reorder the collection under way.
-/

namespace ScriptRealm

/-- The place where a write puts a value, as what that makes of the store; none if there is no such
place. -/
abbrev Placing := Store → Option (Value → Store)

namespace Placing

/-- The position of a list that a key addresses. -/
def item (this key : Value) : Placing := fun s =>
  match this, key.index? with
  | .list l, some i =>
    if i < (s.list l).length then some fun v => s.setList l ((s.list l).set i v) else none
  | _, _ => none

/-- The name in a map that a key stands for, whether the map has an entry for it or not. -/
def entry (this key : Value) : Placing := fun s =>
  match this, key.memberName? with
  | .map r, some name => some fun v => s.setMap r ((s.map r).insert name v)
  | _, _ => none

variable {s : Store} {this key : Value} {put : Value → Store}

/-- An item can be put where a list has one already. -/
theorem item_eq_some_iff :
    item this key s = some put ↔ ∃ l i, this = .list l ∧ key.index? = some i ∧
      i < (s.list l).length ∧ put = fun v => s.setList l ((s.list l).set i v) := by
  cases this with
  | list l =>
    cases hkey : key.index? with
    | none => simp [item, hkey]
    | some i =>
      by_cases hi : i < (s.list l).length <;> simp [item, hkey, hi, eq_comm]
  | _ => simp [item]

/-- An entry can be put under any name. -/
theorem entry_eq_some_iff :
    entry this key s = some put ↔ ∃ r name, this = .map r ∧ key.memberName? = some name ∧
      put = fun v => s.setMap r ((s.map r).insert name v) := by
  cases this with
  | map r => cases hkey : key.memberName? <;> simp [entry, hkey, eq_comm]
  | _ => simp [entry]

/-! ## Looking twice -/

/-- The second look: the value is put in its place if that is there. -/
def settle (place : Placing) (v : Value) (m : Machine) : Ending Bool :=
  match place m.store with
  | none => .returned false m
  | some put => .returned true { m with store := put v }

/-- How a write ends whose value is converted between two looks at its place. -/
def ending (place : Placing) (conversion : Machine → Ending Value) (m : Machine) : Ending Bool :=
  match place m.store with
  | none => .returned false m
  | some _ => (conversion m).andThen place.settle

variable {place : Placing} {conversion : Machine → Ending Value} {v : Value} {m m' : Machine}

theorem settle_eq_true_iff :
    place.settle v m = .returned true m' ↔
      ∃ put, place m.store = some put ∧ m' = { m with store := put v } := by
  unfold settle
  cases place m.store <;> simp [eq_comm]

theorem settle_eq_false_iff :
    place.settle v m = .returned false m' ↔ m = m' ∧ place m.store = none := by
  unfold settle
  cases place m.store <;> simp

/-- Only a conversion fails. -/
theorem exists_settle (place : Placing) (v : Value) (m : Machine) :
    ∃ accepted m', place.settle v m = .returned accepted m' := by
  unfold settle
  cases place m.store <;> simp

/-- A write is accepted just if the place was there before the conversion, the conversion succeeded,
and the place is there after it. -/
theorem ending_eq_true_iff :
    place.ending conversion m = .returned true m' ↔
      (place m.store).isSome ∧ ∃ v m₁ put, conversion m = .returned v m₁ ∧
        place m₁.store = some put ∧ m' = { m₁ with store := put v } := by
  unfold ending
  cases place m.store with
  | none => simp
  | some _ => simp [Ending.andThen_eq_returned_iff, settle_eq_true_iff]

/-- A write that is not accepted changes nothing after the conversion, if there is one. -/
theorem ending_eq_false_iff :
    place.ending conversion m = .returned false m' ↔
      place m.store = none ∧ m' = m ∨
        (place m.store).isSome ∧ ∃ v, conversion m = .returned v m' ∧ place m'.store = none := by
  unfold ending
  cases place m.store with
  | none => simp [eq_comm]
  | some _ =>
    simp only [Ending.andThen_eq_returned_iff, settle_eq_false_iff]
    constructor
    · rintro ⟨v, m₁, hconversion, rfl, hplace⟩
      exact .inr ⟨rfl, v, hconversion, hplace⟩
    · rintro (⟨hnone, -⟩ | ⟨-, v, hconversion, hplace⟩)
      · cases hnone
      · exact ⟨v, m', hconversion, rfl, hplace⟩

/-- A write fails just as its conversion does. -/
theorem ending_eq_threw_iff {e : ScriptError} :
    place.ending conversion m = .threw e m' ↔
      (place m.store).isSome ∧ conversion m = .threw e m' := by
  unfold ending
  cases place m.store with
  | none => simp
  | some _ =>
    simp only [Ending.andThen_eq_threw_iff, Option.isSome_some, true_and, or_iff_left_iff_imp]
    rintro ⟨v, m₁, -, hthrew⟩
    obtain ⟨accepted, m₂, hsettle⟩ := place.exists_settle v m₁
    cases hsettle.symm.trans hthrew

theorem ending_eq_exhausted_iff :
    place.ending conversion m = .exhausted m' ↔
      (place m.store).isSome ∧ conversion m = .exhausted m' := by
  unfold ending
  cases place m.store with
  | none => simp
  | some _ =>
    simp only [Ending.andThen_eq_exhausted_iff, Option.isSome_some, true_and, or_iff_left_iff_imp]
    rintro ⟨v, m₁, -, hexhausted⟩
    obtain ⟨accepted, m₂, hsettle⟩ := place.exists_settle v m₁
    cases hsettle.symm.trans hexhausted

/-- How a write goes that is not accepted. If there is no place for the value, nothing is converted;
and wherever the conversion fails, or takes the place away, the machine is as the conversion left
it. -/
structure Governs (place : Placing) (answer : (q : Query) → Machine → Ending q.Answer)
    (p : Program Bool) (value : Value) (cast : Cast) (m : Machine) : Prop where
  refused : ∀ m', p.run answer m = .returned false m' ↔
    place m.store = none ∧ m' = m ∨
      (place m.store).isSome ∧ ∃ v, cast.ending answer value m = .returned v m' ∧
        place m'.store = none
  threw : ∀ e m', p.run answer m = .threw e m' ↔
    (place m.store).isSome ∧ cast.ending answer value m = .threw e m'
  exhausted : ∀ m', p.run answer m = .exhausted m' ↔
    (place m.store).isSome ∧ cast.ending answer value m = .exhausted m'
  /-- a write that is refused at once asks nothing, so it never calls the converter -/
  silent : place m.store = none → p.queries answer m = []
  asks : (place m.store).isSome → p.queries answer m = cast.queries value

/-- A write is governed if it runs and asks as the placing says. -/
theorem governs {answer : (q : Query) → Machine → Ending q.Answer} {p : Program Bool}
    {value : Value} {cast : Cast}
    (hrun : p.run answer m = place.ending (cast.ending answer value) m)
    (hqueries : p.queries answer m = if (place m.store).isSome then cast.queries value else []) :
    place.Governs answer p value cast m where
  refused _ := hrun ▸ ending_eq_false_iff
  threw _ _ := hrun ▸ ending_eq_threw_iff
  exhausted _ := hrun ▸ ending_eq_exhausted_iff
  silent hnone := by simp [hqueries, hnone]
  asks hsome := by simp [hqueries, hsome]

end Placing

/-! ## The two capabilities -/

namespace Capability

variable (answer : (q : Query) → Machine → Ending q.Answer) (this key value : Value) (cast : Cast)
  (m : Machine)

/-- The adapter of lists looks for the place, converts, and puts the value there. -/
theorem run_write_sequence :
    (sequence.write this key value cast).run answer m =
      (Placing.item this key).ending (cast.ending answer value) m := by
  cases this with
  | list l =>
    cases hkey : key.index? with
    | none => simp [sequence, writeItem, Placing.ending, Placing.item, hkey]
    | some i =>
      by_cases hi : i < (m.store.list l).length
      · simp only [sequence, writeItem, hkey, Program.run_bind_eq, Program.run_list,
          Ending.returned_andThen, hi, ↓reduceIte, Cast.run_apply, Placing.ending, Placing.item]
        congr 1
        funext v m₁
        by_cases hi₁ : i < (m₁.store.list l).length <;>
          simp [Placing.settle, Placing.item, hkey, hi₁]
      · simp [sequence, writeItem, Placing.ending, Placing.item, hkey, hi]
  | _ => rfl

/-- It converts only if there is a place. -/
theorem queries_write_sequence :
    (sequence.write this key value cast).queries answer m =
      if (Placing.item this key m.store).isSome then cast.queries value else [] := by
  cases this with
  | list l =>
    cases hkey : key.index? with
    | none => simp [sequence, writeItem, Placing.item, hkey]
    | some i =>
      by_cases hi : i < (m.store.list l).length
      · -- nothing is asked after the conversion
        simp only [sequence, writeItem, Placing.item, hkey, hi, Program.queries_bind_eq,
          Program.queries_list, Program.run_list, Ending.returned_continued, ↓reduceIte,
          Cast.queries_apply, Cast.run_apply, Option.isSome_some, List.nil_append]
        cases cast.ending answer value m with
        | returned v m₁ =>
          by_cases hi₁ : i < (m₁.store.list l).length <;> simp [hi₁]
        | threw e m₁ => exact List.append_nil _
        | exhausted m₁ => exact List.append_nil _
      · simp [sequence, writeItem, Placing.item, hkey, hi]
  | _ => rfl

/-- The adapter of maps does the same with entries. -/
theorem run_write_mapping :
    (mapping.write this key value cast).run answer m =
      (Placing.entry this key).ending (cast.ending answer value) m := by
  cases this with
  | map r =>
    cases hkey : key.memberName? with
    | none => simp [mapping, writeEntry, Placing.ending, Placing.entry, hkey]
    | some name =>
      simp only [mapping, writeEntry, hkey, Program.run_bind_eq, Cast.run_apply, Program.run_map,
        Ending.returned_andThen, Program.run_setMap, Program.run_pure, Placing.ending,
        Placing.entry]
      congr 1
      funext v m₁
      simp [Placing.settle, Placing.entry, hkey]
  | _ => rfl

theorem queries_write_mapping :
    (mapping.write this key value cast).queries answer m =
      if (Placing.entry this key m.store).isSome then cast.queries value else [] := by
  cases this with
  | map r =>
    cases hkey : key.memberName? <;> simp [mapping, writeEntry, Placing.entry, hkey]
  | _ => rfl

end Capability

/-! ## Writes and conversions -/

/-- Writes by the built-in capabilities, whatever the conversion of the value does. A write into a
list is accepted just if the key's position was below the length before the conversion, the
conversion succeeded, and the position is below the length after it; then that item is replaced in
the list as the conversion left it, and nothing else changes. A write into a map under a name is
accepted just if the conversion succeeded, and sets that entry in the map as the conversion left it.
A write that is not accepted or fails leaves the machine as the conversion did, and one that has no
place to begin with converts nothing. -/
theorem writes_follow_conversion (answer : (q : Query) → Machine → Ending q.Answer)
    (this key value : Value) (cast : Cast) (m : Machine) :
    let conversion := cast.ending answer value m
    let intoList := Capability.sequence.write this key value cast
    let intoMap := Capability.mapping.write this key value cast
    (∀ m', intoList.run answer m = .returned true m' ↔
      ∃ l i v m₁, this = .list l ∧ key.index? = some i ∧ i < (m.store.list l).length ∧
        conversion = .returned v m₁ ∧ i < (m₁.store.list l).length ∧
        m' = { m₁ with store := m₁.store.setList l ((m₁.store.list l).set i v) } ∧
        m'.store.list l = (m₁.store.list l).set i v) ∧
    (Placing.item this key).Governs answer intoList value cast m ∧
    (∀ m', intoMap.run answer m = .returned true m' ↔
      ∃ r name v m₁, this = .map r ∧ key.memberName? = some name ∧
        conversion = .returned v m₁ ∧
        m' = { m₁ with store := m₁.store.setMap r ((m₁.store.map r).insert name v) } ∧
        (m₁.store.Known (.map r) → m'.store.map r = (m₁.store.map r).insert name v)) ∧
    (Placing.entry this key).Governs answer intoMap value cast m := by
  intro conversion intoList intoMap
  have hlist := Capability.run_write_sequence answer this key value cast m
  have hmap := Capability.run_write_mapping answer this key value cast m
  refine ⟨fun m' => ?_, Placing.governs hlist (Capability.queries_write_sequence ..), fun m' => ?_,
    Placing.governs hmap (Capability.queries_write_mapping ..)⟩
  · rw [hlist, Placing.ending_eq_true_iff, Option.isSome_iff_exists]
    constructor
    · rintro ⟨⟨put, hput⟩, v, m₁, put₁, hconversion, hput₁, rfl⟩
      obtain ⟨l, i, rfl, hkey, hi, -⟩ := Placing.item_eq_some_iff.1 hput
      obtain ⟨l₁, i₁, hl, hkey₁, hi₁, rfl⟩ := Placing.item_eq_some_iff.1 hput₁
      -- the second look is for the same position of the same list
      cases hl
      cases hkey.symm.trans hkey₁
      have hknown : l.index < m₁.store.lists.size :=
        Store.index_lt_of_mem_list (List.getElem_mem hi₁)
      exact ⟨l, i, v, m₁, rfl, hkey, hi, hconversion, hi₁, rfl,
        m₁.store.list_setList_self hknown _⟩
    · rintro ⟨l, i, v, m₁, rfl, hkey, hi, hconversion, hi₁, rfl, -⟩
      exact ⟨⟨_, Placing.item_eq_some_iff.2 ⟨l, i, rfl, hkey, hi, rfl⟩⟩, v, m₁, _, hconversion,
        Placing.item_eq_some_iff.2 ⟨l, i, rfl, hkey, hi₁, rfl⟩, rfl⟩
  · rw [hmap, Placing.ending_eq_true_iff, Option.isSome_iff_exists]
    constructor
    · rintro ⟨-, v, m₁, put, hconversion, hput, rfl⟩
      obtain ⟨r, name, rfl, hkey, rfl⟩ := Placing.entry_eq_some_iff.1 hput
      exact ⟨r, name, v, m₁, rfl, hkey, hconversion, rfl, fun hknown =>
        m₁.store.map_setMap_self hknown _⟩
    · rintro ⟨r, name, v, m₁, rfl, hkey, hconversion, rfl, -⟩
      exact ⟨⟨_, Placing.entry_eq_some_iff.2 ⟨r, name, rfl, hkey, rfl⟩⟩, v, m₁, _, hconversion,
        Placing.entry_eq_some_iff.2 ⟨r, name, rfl, hkey, rfl⟩, rfl⟩

end ScriptRealm
