import ScriptRealm.Proofs.Run

/-!
# Queries of runs

What a program itself asks in a run, in the order in which it asks. The answers may take queries of
their own, which are not counted here. The queries of two programs in sequence are those of the
first and then those of the second, if it comes to that.
-/

namespace ScriptRealm

variable {α β γ : Type}

/-- What a run goes on to list if it returned. -/
def Ending.continued : Ending α → (α → Machine → List β) → List β
  | .returned a m, f => f a m
  | .threw _ _, _ => []
  | .exhausted _, _ => []

/-- A run that returned goes on from its result. -/
@[simp] theorem Ending.returned_continued (a : α) (m : Machine) (f : α → Machine → List β) :
    (returned a m).continued f = f a m := rfl

/-- Where nothing more is listed, the ending makes no difference. -/
@[simp] theorem Ending.continued_nil (ending : Ending α) :
    (ending.continued fun _ _ => ([] : List β)) = [] := by
  cases ending <;> rfl

namespace Program

/-- The queries that a program puts in a run, given their answers. -/
def queries (answer : (q : Query) → Machine → Ending q.Answer) :
    Program α → Machine → List Query
  | .done _, _ => []
  | .fail _, _ => []
  | .perform .getStore next, m => (next m.store).queries answer m
  | .perform (.setStore s) next, m => (next ()).queries answer { m with store := s }
  | .perform (.emit e) next, m => (next ()).queries answer { m with log := m.log.push e }
  | .perform (.ask q) next, m =>
    q :: match answer q m with
      | .returned a m => (next (.ok a)).queries answer m
      | .threw e m => (next (.error e)).queries answer m
      | .exhausted _ => []

section

variable (answer : (q : Query) → Machine → Ending q.Answer) (m : Machine)

/-- The second part asks in the run that the first part left. -/
theorem queries_bind (p : Program α) (f : α → Program β) (m : Machine) :
    (p.bind f).queries answer m =
      p.queries answer m ++ (p.run answer m).continued fun a m => (f a).queries answer m := by
  induction p generalizing m with
  | done a => rfl
  | fail e => rfl
  | perform e next ih =>
    cases e with
    | getStore => exact ih m.store m
    | setStore s => exact ih () { m with store := s }
    | emit e => exact ih () { m with log := m.log.push e }
    | ask q =>
      simp only [Program.bind, queries, run, List.cons_append]
      cases answer q m with
      | returned a m => exact congrArg (q :: ·) (ih (.ok a) m)
      | threw e m => exact congrArg (q :: ·) (ih (.error e) m)
      | exhausted m => rfl

/-- `queries_bind` for the notation of monads. -/
@[simp] theorem queries_bind_eq (p : Program α) (f : α → Program β) :
    (p >>= f).queries answer m =
      p.queries answer m ++ (p.run answer m).continued fun a m => (f a).queries answer m :=
  queries_bind answer p f m

/-- A function of the result asks nothing. -/
@[simp] theorem queries_map_eq (f : α → β) (p : Program α) :
    (f <$> p).queries answer m = p.queries answer m := by
  rw [map_eq_pure_bind, queries_bind_eq]
  exact (congrArg _ (Ending.continued_nil _)).trans (List.append_nil _)

/-- Steps that only work on the machine ask nothing, these and the next ones. -/
@[simp] theorem queries_pure (a : α) : (pure a : Program α).queries answer m = [] := rfl

@[simp] theorem queries_list (l : ListRef) : (list l).queries answer m = [] := rfl

@[simp] theorem queries_map (r : MapRef) : (map r).queries answer m = [] := rfl

@[simp] theorem queries_getStore : getStore.queries answer m = [] := rfl

@[simp] theorem queries_setStore (s : Store) : (setStore s).queries answer m = [] := rfl

@[simp] theorem queries_setList (l : ListRef) (items : List Value) :
    (setList l items).queries answer m = [] := rfl

@[simp] theorem queries_setMap (r : MapRef) (entries : Assoc Value) :
    (setMap r entries).queries answer m = [] := rfl

@[simp] theorem queries_emit (e : Event) : (emit e).queries answer m = [] := rfl

/-- A query is asked once, whatever comes of it. -/
@[simp] theorem queries_ask (q : Query) : (ask q).queries answer m = [q] := by
  simp only [ask, queries]
  cases answer q m <;> rfl

end

end Program

/-- What a conversion asks. -/
def Cast.queries : Cast → Value → List Query
  | .identity, _ => []
  | .toScript, v => [.toScript v]
  | .toHost hint, v => [.toHost v hint]

/-- A cast asks for its conversion once, and the identity asks nothing. -/
@[simp] theorem Cast.queries_apply (answer : (q : Query) → Machine → Ending q.Answer) (cast : Cast)
    (v : Value) (m : Machine) : (cast.apply v).queries answer m = cast.queries v := by
  cases cast with
  | identity => rfl
  | toScript => exact Program.queries_ask answer m (.toScript v)
  | toHost hint => exact Program.queries_ask answer m (.toHost v hint)

/-! ## Programs that are the same on a machine -/

namespace Program

/-- Two programs have the same outcome and effects on a machine, and ask the same, however their
queries are answered. -/
structure ActsAs (p p' : Program α) (m : Machine) : Prop where
  run : ∀ answer, p.run answer m = p'.run answer m
  queries : ∀ answer, p.queries answer m = p'.queries answer m

namespace ActsAs

variable {p p' p'' : Program α} {m : Machine}

theorem refl (p : Program α) (m : Machine) : p.ActsAs p m :=
  ⟨fun _ => rfl, fun _ => rfl⟩

theorem symm (h : p.ActsAs p' m) : p'.ActsAs p m :=
  ⟨fun answer => (h.run answer).symm, fun answer => (h.queries answer).symm⟩

theorem trans (h : p.ActsAs p' m) (h' : p'.ActsAs p'' m) : p.ActsAs p'' m :=
  ⟨fun answer => (h.run answer).trans (h'.run answer),
    fun answer => (h.queries answer).trans (h'.queries answer)⟩

/-- What programs go on with may be anything. -/
theorem bind (h : p.ActsAs p' m) (f : α → Program β) : (p.bind f).ActsAs (p'.bind f) m := by
  constructor
  · intro answer
    rw [run_bind, run_bind, h.run]
  · intro answer
    rw [queries_bind, queries_bind, h.run, h.queries]

end ActsAs

end Program

end ScriptRealm
