import ScriptRealm.Proofs.Collection.Dispatch
import ScriptRealm.Session.Fixture

/-!
# Failed deletions

A member is taken out of its collection before it is converted for the script. A deletion that
fails in the conversion has therefore lost the member: deletion is atomic exactly where the
conversion of the member does not fail. The converters here leave collections alone, as the
standard one does, so the deletion itself is the only change.
-/

namespace ScriptRealm

/-! ## What a deletion does -/

namespace Context

variable (hostObjectName : String) (host : Host) (converter : Converter) (config : Config)

/-- The core realm adds nothing to the capability but an event for a miss. -/
theorem run_delete_core (answer : (q : Query) → Machine → Ending q.Answer) (h : Handle)
    (key : Value) (m : Machine) :
    let ctx := core hostObjectName host converter config
    (ctx.delete h.value key).run answer m =
      ctx.conclude (ctx.classify h.value) (.delete h.value key)
        ((h.adapter.delete h.value key).run answer m) := by
  intro ctx
  have htables : ctx.tableMembers (ctx.classify h.value) .delete key = [] :=
    tableMembers_of_tables (fun _ => rfl) _ key
  have hrun := run_collection hostObjectName host converter config answer h
    (.delete h.value key) rfl m
  simp only [Request.operation, Request.key] at hrun
  rw [htables, List.map_nil, Request.askAll_nil, Request.orElse_miss] at hrun
  exact hrun

/-- An event changes nothing about errors. -/
theorem conclude_eq_threw {ctx : Context} {start : ProtoId} {q : Request} {ending : Ending q.Answer}
    {e : ScriptError} {m : Machine} :
    ctx.conclude start q ending = .threw e m ↔ ending = .threw e m := by
  cases ending with
  | returned a m' =>
    simp only [conclude]
    split <;> simp
  | threw e' m' => rfl
  | exhausted m' => rfl

/-! ## Atomic deletions -/

/-- A failure of the program leaves a collection as it was. -/
def Atomic (ctx : Context) (depth : Nat) (p : Program Lookup) (h : Handle) (m : Machine) : Prop :=
  ∀ e m', ctx.run depth p m = .threw e m' → m'.store.content h = m.store.content h

/-- Whether it succeeds or fails, the conversion for scripts leaves all collections alone. -/
def ConvertsQuietly (ctx : Context) (depth : Nat) : Prop :=
  ∀ (v : Value) (m : Machine),
    m.store.Keeps ((ctx.converter.toScript v).run (ctx.answer depth) m).machine.store

/-- The member that a key addresses can be converted once it is taken out. -/
def Convertible (ctx : Context) (depth : Nat) (h : Handle) (key : Value) (m : Machine) : Prop :=
  ∀ v s, m.store.takeOut h key = some (v, s) → ∀ e m',
    (ctx.converter.toScript v).run (ctx.answer depth) { m with store := s } ≠ .threw e m'

/-- A failed deletion is a failed conversion of the member that was taken out. -/
theorem run_delete_eq_threw {ctx : Context} {depth : Nat} {h : Handle} {key : Value}
    {m m' : Machine} {e : ScriptError} :
    ctx.run (depth + 1) (h.adapter.delete h.value key) m = .threw e m' ↔
      ∃ v s, m.store.takeOut h key = some (v, s) ∧
        (ctx.converter.toScript v).run (ctx.answer depth) { m with store := s } = .threw e m' := by
  rw [run, Capability.run_delete_adapter]
  cases htake : m.store.takeOut h key with
  | none => simp
  | some taken =>
    obtain ⟨v, s⟩ := taken
    have hconvert : Cast.toScript.ending (ctx.answer (depth + 1)) v { m with store := s } =
        (ctx.converter.toScript v).run (ctx.answer depth) { m with store := s } := rfl
    simp only [hconvert, Option.some.injEq, Prod.mk.injEq, and_assoc, exists_eq_left',
      exists_and_left]
    cases (ctx.converter.toScript v).run (ctx.answer depth) { m with store := s } <;> simp

/-- With a converter that leaves collections alone, a failed deletion has lost the member. -/
theorem content_of_failed_delete {ctx : Context} {depth : Nat} {h : Handle} {key v : Value}
    {m m' : Machine} {s : Store} {e : ScriptError} (hquiet : ctx.ConvertsQuietly depth)
    (htake : m.store.takeOut h key = some (v, s))
    (hrun : (ctx.converter.toScript v).run (ctx.answer depth) { m with store := s } =
      .threw e m') : m'.store.content h = s.content h := by
  have hkeeps := hquiet v { m with store := s }
  rw [hrun] at hkeeps
  exact hkeeps.content h (Store.known_takeOut htake).2

theorem atomic_delete_adapter_iff {ctx : Context} {depth : Nat} (hquiet : ctx.ConvertsQuietly depth)
    (h : Handle) (key : Value) (m : Machine) :
    ctx.Atomic (depth + 1) (h.adapter.delete h.value key) h m ↔ ctx.Convertible depth h key m := by
  constructor
  · -- a failed conversion would leave one member less than before
    intro hatomic v s htake e m' hrun
    have hsame := hatomic e m' (run_delete_eq_threw.2 ⟨v, s, htake, hrun⟩)
    rw [content_of_failed_delete hquiet htake hrun] at hsame
    have hsize := Store.size_content_takeOut htake
    rw [hsame] at hsize
    omega
  · intro hconvertible e m' hthrew
    obtain ⟨v, s, htake, hrun⟩ := run_delete_eq_threw.1 hthrew
    exact absurd hrun (hconvertible v s htake e m')

/-- The core realm fails a deletion where the capability for the collection's kind fails it. -/
theorem run_delete_core_eq_threw (depth : Nat) (h : Handle) (key : Value) (m m' : Machine)
    (e : ScriptError) :
    let ctx := core hostObjectName host converter config
    ctx.run depth (ctx.delete h.value key) m = .threw e m' ↔
      ctx.run depth (h.adapter.delete h.value key) m = .threw e m' := by
  intro ctx
  rw [run, run, run_delete_core hostObjectName host converter config]
  exact conclude_eq_threw

end Context

/-- With a converter that may fail but leaves collections alone, a deletion is atomic exactly where
the member can be converted; otherwise it fails with the member lost. This holds for the
capabilities themselves and through the core realm. -/
theorem delete_atomic_iff (hostObjectName : String) (host : Host) (converter : Converter)
    (config : Config) (depth : Nat) (h : Handle) (key : Value) (m : Machine)
    (hquiet : (Context.core hostObjectName host converter config).ConvertsQuietly depth) :
    let ctx := Context.core hostObjectName host converter config
    (ctx.Atomic (depth + 1) (h.adapter.delete h.value key) h m ↔ ctx.Convertible depth h key m) ∧
    (ctx.Atomic (depth + 1) (ctx.delete h.value key) h m ↔ ctx.Convertible depth h key m) ∧
    ∀ e m', ctx.run (depth + 1) (ctx.delete h.value key) m = .threw e m' →
      ∃ v s, m.store.takeOut h key = some (v, s) ∧ m'.store.content h = s.content h := by
  intro ctx
  have hthrew := Context.run_delete_core_eq_threw hostObjectName host converter config (depth + 1)
    h key m
  have hadapter := ctx.atomic_delete_adapter_iff hquiet h key m
  refine ⟨hadapter, ?_, ?_⟩
  · -- both fail with the same machine
    rw [← hadapter]
    exact forall₂_congr fun e m' => imp_congr_left (hthrew m' e)
  · intro e m' hrun
    obtain ⟨v, s, htake, hconvert⟩ := Context.run_delete_eq_threw.1 ((hthrew m' e).1 hrun)
    exact ⟨v, s, htake, Context.content_of_failed_delete hquiet htake hconvert⟩

/-! ## A converter that refuses undefined -/

/-- A context whose converter has no form of undefined for scripts. -/
def Context.refusingUndefined : Context :=
  .core "HostObject" .empty (Session.ConverterKind.converter ⟨true, none⟩) .standard

/-- A machine with one list, which holds undefined. -/
def Machine.holdingUndefined : Machine :=
  ⟨⟨#[[.undefined]], #[]⟩, #[]⟩

theorem Context.convertsQuietly_refusingUndefined (depth : Nat) :
    refusingUndefined.ConvertsQuietly depth := by
  intro v m
  have hstore : (((Session.ConverterKind.converter ⟨true, none⟩).toScript v).run
      (refusingUndefined.answer depth) m).machine.store = m.store := by
    simp only [Session.ConverterKind.converter, Program.note]
    by_cases hv : v = .undefined <;> simp [hv, Converter.standard, Ending.machine]
  exact hstore ▸ Store.Keeps.refl m.store

theorem Machine.takeOut_holdingUndefined :
    Machine.holdingUndefined.store.takeOut (.list ⟨0⟩) (.int 0) =
      some (.undefined, ⟨#[[]], #[]⟩) := rfl

/-- Undefined has no form for scripts, so it cannot be converted once it is taken out. -/
theorem Context.toScript_refusingUndefined (depth : Nat) (m : Machine) :
    (refusingUndefined.converter.toScript .undefined).run (refusingUndefined.answer depth) m =
      .threw (.conversion (.noScriptRepresentation (m.store.describe .undefined)))
        { m with log := m.log.push (.note ("to_script " ++ m.store.describe .undefined)) } := by
  have hconverter : refusingUndefined.converter = Session.ConverterKind.converter ⟨true, none⟩ :=
    rfl
  simp [hconverter, Session.ConverterKind.converter, Program.note]

/-- The list loses undefined, although the deletion fails. -/
theorem delete_loses_refused_member :
    let ctx := Context.refusingUndefined
    let h : Handle := .list ⟨0⟩
    ctx.ConvertsQuietly 0 ∧
      ¬ctx.Atomic 1 (h.adapter.delete h.value (.int 0)) h .holdingUndefined ∧
      ¬ctx.Atomic 1 (ctx.delete h.value (.int 0)) h .holdingUndefined := by
  intro ctx h
  have hadapter := Context.run_delete_eq_threw.2
    ⟨_, _, Machine.takeOut_holdingUndefined, Context.toScript_refusingUndefined 0 _⟩
  have hcore := (Context.run_delete_core_eq_threw _ _ _ _ 1 h (.int 0) _ _ _).2 hadapter
  refine ⟨Context.convertsQuietly_refusingUndefined 0, fun hatomic => ?_, fun hatomic => ?_⟩
  · exact absurd (hatomic _ _ hadapter) (by decide)
  · exact absurd (hatomic _ _ hcore) (by decide)

/-- The condition fails for a member that the converter refuses. -/
theorem delete_atomic_iff_refused :
    let ctx := Context.refusingUndefined
    let h : Handle := .list ⟨0⟩
    ctx.ConvertsQuietly 0 ∧ ¬ctx.Convertible 0 h (.int 0) .holdingUndefined ∧
      ¬ctx.Atomic 1 (ctx.delete h.value (.int 0)) h .holdingUndefined := by
  intro ctx h
  have hquiet : ctx.ConvertsQuietly 0 := Context.convertsQuietly_refusingUndefined 0
  have hnot : ¬ctx.Convertible 0 h (.int 0) .holdingUndefined := fun hconvertible =>
    hconvertible _ _ Machine.takeOut_holdingUndefined _ _
      (Context.toScript_refusingUndefined 0 _)
  have hiff := delete_atomic_iff "HostObject" .empty (Session.ConverterKind.converter ⟨true, none⟩)
    .standard 0 h (.int 0) .holdingUndefined hquiet
  exact ⟨hquiet, hnot, fun hatomic => hnot (hiff.2.1.1 hatomic)⟩

end ScriptRealm
