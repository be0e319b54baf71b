import ScriptRealm.Context

/-!
# Runs

What running the single steps of a program, its alternatives and its casts comes to. Proofs about
runs use these equations and open no program.
-/

namespace ScriptRealm

variable {α β γ : Type}

/-! ## Endings -/

namespace Ending

/-- The machine at the end of a run. -/
def machine : Ending α → Machine
  | .returned _ m => m
  | .threw _ m => m
  | .exhausted m => m

/-- Only a run that returned is gone on with. -/
@[simp] theorem returned_andThen (a : α) (m : Machine) (f : α → Machine → Ending β) :
    (returned a m).andThen f = f a m := rfl

@[simp] theorem threw_andThen (e : ScriptError) (m : Machine) (f : α → Machine → Ending β) :
    (threw e m : Ending α).andThen f = threw e m := rfl

@[simp] theorem exhausted_andThen (m : Machine) (f : α → Machine → Ending β) :
    (exhausted m : Ending α).andThen f = exhausted m := rfl

/-- What follows a run can be taken together. -/
theorem andThen_assoc (e : Ending α) (f : α → Machine → Ending β) (g : β → Machine → Ending γ) :
    (e.andThen f).andThen g = e.andThen fun a m => (f a m).andThen g := by
  cases e <;> rfl

section

variable {ending : Ending α} {f : α → Machine → Ending β} {m : Machine}

/-- A run in two parts returns where both parts do. -/
theorem andThen_eq_returned_iff {b : β} :
    ending.andThen f = .returned b m ↔
      ∃ a m₁, ending = .returned a m₁ ∧ f a m₁ = .returned b m := by
  cases ending <;> simp [and_assoc]

/-- A run in two parts fails in the first part, or in the second after the first has returned. -/
theorem andThen_eq_threw_iff {e : ScriptError} :
    ending.andThen f = .threw e m ↔
      ending = .threw e m ∨ ∃ a m₁, ending = .returned a m₁ ∧ f a m₁ = .threw e m := by
  cases ending <;> simp [and_assoc]

/-- A run in two parts is exhausted in either of them, too. -/
theorem andThen_eq_exhausted_iff :
    ending.andThen f = .exhausted m ↔
      ending = .exhausted m ∨ ∃ a m₁, ending = .returned a m₁ ∧ f a m₁ = .exhausted m := by
  cases ending <;> simp [and_assoc]

end

end Ending

/-! ## Single steps -/

namespace Program

variable (answer : (q : Query) → Machine → Ending q.Answer) (m : Machine)

/-- A result is returned on the machine as it is. -/
@[simp] theorem run_pure (a : α) : (pure a : Program α).run answer m = .returned a m := rfl

@[simp] theorem run_done (a : α) : (done a).run answer m = .returned a m := rfl

@[simp] theorem run_fail (e : ScriptError) : (fail e : Program α).run answer m = .threw e m := rfl

/-- `Program.run_bind` for the notation of monads. -/
@[simp] theorem run_bind_eq (p : Program α) (f : α → Program β) :
    (p >>= f).run answer m = (p.run answer m).andThen fun a m => (f a).run answer m :=
  run_bind answer p f m

/-- Programs run alike if their parts do. -/
theorem run_bind_congr {p p' : Program α} {f f' : α → Program β}
    (h : p.run answer m = p'.run answer m)
    (hf : ∀ a m, (f a).run answer m = (f' a).run answer m) :
    (p >>= f).run answer m = (p' >>= f').run answer m := by
  simp only [run_bind_eq, h, hf]

/-- A function of the result changes nothing about the machine. -/
@[simp] theorem run_map_eq (f : α → β) (p : Program α) :
    (f <$> p).run answer m = (p.run answer m).andThen fun a m => .returned (f a) m := by
  rw [map_eq_pure_bind, run_bind_eq]
  rfl

/-- To look at the store leaves the machine as it is. -/
@[simp] theorem run_getStore : getStore.run answer m = .returned m.store m := rfl

/-- A new store leaves the log as it is. -/
@[simp] theorem run_setStore (s : Store) :
    (setStore s).run answer m = .returned () { m with store := s } := rfl

/-- An event comes last in the log, and leaves the store as it is. -/
@[simp] theorem run_emit (e : Event) :
    (emit e).run answer m = .returned () { m with log := m.log.push e } := rfl

/-- A query runs as its answer does: a failed one fails the program. -/
@[simp] theorem run_ask (q : Query) : (ask q).run answer m = answer q m := by
  simp only [ask, run]
  cases answer q m <;> rfl

/-! ## Collections -/

/-- The content of a collection is read off the store. -/
@[simp] theorem run_list (l : ListRef) :
    (list l).run answer m = .returned (m.store.list l) m := rfl

@[simp] theorem run_map (r : MapRef) : (map r).run answer m = .returned (m.store.map r) m := rfl

/-- A fresh list comes with the store that has it. -/
@[simp] theorem run_newList (items : List Value) :
    (newList items).run answer m =
      .returned (m.store.newList items).1 { m with store := (m.store.newList items).2 } := rfl

@[simp] theorem run_setList (l : ListRef) (items : List Value) :
    (setList l items).run answer m = .returned () { m with store := m.store.setList l items } := rfl

@[simp] theorem run_setMap (r : MapRef) (entries : Assoc Value) :
    (setMap r entries).run answer m = .returned () { m with store := m.store.setMap r entries } :=
  rfl

end Program

/-! ## Casts -/

/-- How a conversion ends, given the answers to its queries. -/
def Cast.ending (answer : (q : Query) → Machine → Ending q.Answer) :
    Cast → Value → Machine → Ending Value
  | .identity, v, m => .returned v m
  | .toScript, v, m => answer (.toScript v) m
  | .toHost hint, v, m => answer (.toHost v hint) m

/-- A cast runs as its conversion, if there is one. -/
@[simp] theorem Cast.run_apply (answer : (q : Query) → Machine → Ending q.Answer) (cast : Cast)
    (v : Value) (m : Machine) : (cast.apply v).run answer m = cast.ending answer v m := by
  cases cast with
  | identity => rfl
  | toScript => exact Program.run_ask answer m (.toScript v)
  | toHost hint => exact Program.run_ask answer m (.toHost v hint)

/-- The result of a member is converted on the machine that its callback left. -/
theorem Accessor.run_foundBy (answer : (q : Query) → Machine → Ending q.Answer) (cast : Cast)
    (p : Program Value) (m : Machine) :
    (foundBy cast p).run answer m = (p.run answer m).andThen fun v m =>
      (cast.ending answer v m).andThen fun w m => .returned (.found w) m := by
  simp [foundBy]

end ScriptRealm
