import ScriptRealm.Proofs.Setup.Keys

/-!
# Sets of keys that are handed out

The set that a prototype remembers and the set that the host was handed are one and the same. Here
the sets of a setup stand in one array, and prototypes and hosts hold positions in it: asking for
own keys hands out the position that is remembered, or makes a new set. The values that the registry
remembers are the content of the remembered positions, and no step writes to a set that is there; so
the host keeps what it was handed, whatever is registered afterwards.
-/

namespace ScriptRealm

/-- Whether an edit makes a prototype forget its own keys. -/
def Prototype.Edit.forgetsKeys : Prototype.Edit → Bool
  | .property .. => true
  | .function .. => true
  | _ => false

/-- The sets of keys that a setup has made, and the position of the one that each prototype
remembers. -/
structure KeyShelf where
  sets : Array (List String) := #[]
  cell : ProtoId → Option Nat := fun _ => none

namespace KeyShelf

/-- Empties or fills the cell of one prototype. -/
def setCell (k : KeyShelf) (id : ProtoId) (position : Option Nat) : KeyShelf :=
  { k with cell := fun q => if q = id then position else k.cell q }

/-- The position that a prototype hands out: that of the set it remembers, or of the next one. -/
def handedOut (k : KeyShelf) (id : ProtoId) : Nat :=
  (k.cell id).getD k.sets.size

/-- Asks a prototype for its own keys. A set is made only where none is remembered. -/
def ask (k : KeyShelf) (id : ProtoId) (p : Prototype) : KeyShelf :=
  match k.cell id with
  | some _ => k
  | none => { k with sets := k.sets.push p.tableKeys }.setCell id (some k.sets.size)

/-- The sets after a step on a registry. -/
def perform (k : KeyShelf) (r : Registry) : Registry.Step → KeyShelf
  | .define .. => k
  | .edit id e => if e.forgetsKeys then k.setCell id none else k
  | .ownKeys id =>
    match r.get? id with
    | some p => k.ask id p
    | none => k

/-- The sets after some steps on a registry. -/
def performAll (k : KeyShelf) (r : Registry) : List Registry.Step → KeyShelf
  | [] => k
  | step :: rest => (k.perform r step).performAll (r.perform step) rest

theorem performAll_append (k : KeyShelf) (r : Registry) (first rest : List Registry.Step) :
    k.performAll r (first ++ rest) =
      (k.performAll r first).performAll (r.performAll first) rest := by
  induction first generalizing k r with
  | nil => rfl
  | cons step first ih => exact ih (k.perform r step) (r.perform step)

/-! ## Sets stay as they are -/

/-- What is there stays where and as it is. -/
def Extends (k k' : KeyShelf) : Prop :=
  ∀ (n : Nat) (keys : List String), k.sets[n]? = some keys → k'.sets[n]? = some keys

theorem extends_ask (k : KeyShelf) (id : ProtoId) (p : Prototype) : k.Extends (k.ask id p) := by
  intro n keys hn
  unfold ask
  split
  · exact hn
  · have hlt := (Array.getElem?_eq_some_iff.1 hn).1
    rw [setCell, Array.getElem?_push, if_neg (Nat.ne_of_lt hlt)]
    exact hn

theorem extends_perform (k : KeyShelf) (r : Registry) (step : Registry.Step) :
    k.Extends (k.perform r step) := by
  cases step with
  | define name kind parent => exact fun n keys hn => hn
  | edit id e =>
    intro n keys hn
    rw [perform]
    split <;> exact hn
  | ownKeys id =>
    rw [perform]
    cases r.get? id with
    | none => exact fun n keys hn => hn
    | some p => exact k.extends_ask id p

theorem extends_performAll (k : KeyShelf) (r : Registry) (steps : List Registry.Step) :
    k.Extends (k.performAll r steps) := by
  induction steps generalizing k r with
  | nil => exact fun n keys hn => hn
  | cons step rest ih =>
    intro n keys hn
    exact ih _ _ n keys (k.extends_perform r step n keys hn)

/-! ## Cells and what the registry remembers -/

/-- The cells hold what the prototypes of a registry remember. -/
structure Shows (k : KeyShelf) (r : Registry) : Prop where
  remembered : ∀ id p, r.get? id = some p → p.keyCache = (k.cell id).bind fun n => k.sets[n]?
  made : ∀ id n, k.cell id = some n → n < k.sets.size
  unknown : ∀ id, r.get? id = none → k.cell id = none

variable {k : KeyShelf} {r : Registry}

/-- A new prototype remembers nothing. -/
theorem Shows.push (h : k.Shows r) (name : String) (kind : ProtoKind) (parent : Option ProtoId) :
    k.Shows (r.push name kind parent) := by
  refine ⟨fun id p hp => ?_, h.made, fun id hid => h.unknown id ?_⟩
  · rw [Registry.get?_push] at hp
    split at hp
    · rename_i hnew
      have hid : r.get? id = none := Array.getElem?_eq_none (Nat.le_of_eq hnew.symm)
      rw [h.unknown id hid, ← Option.some.inj hp]
      cases parent.bind r.get? <;> rfl
    · exact h.remembered id p hp
  · rw [Registry.get?_push] at hid
    split at hid
    · cases hid
    · exact hid

end KeyShelf

theorem Prototype.keyCache_after (p : Prototype) (e : Prototype.Edit) :
    (p.after e).keyCache = if e.forgetsKeys then none else p.keyCache := by
  cases e with
  | setConstructor a =>
    rw [after_setConstructor]
    rfl
  | setCapability c =>
    rw [after_setCapability]
    rfl
  | setView view supplier => cases view <;> rfl
  | _ => rfl

namespace KeyShelf

variable {k : KeyShelf} {r : Registry}

theorem Shows.edit (h : k.Shows r) (id : ProtoId) (e : Prototype.Edit) :
    (k.perform r (.edit id e)).Shows (r.perform (.edit id e)) := by
  rw [Registry.perform_edit, perform]
  have hcell : ∀ q, (if e.forgetsKeys then k.setCell id none else k).cell q =
      if q = id ∧ e.forgetsKeys then none else k.cell q := by
    intro q
    cases e.forgetsKeys <;> simp [setCell]
  have hsets : (if e.forgetsKeys then k.setCell id none else k).sets = k.sets := by
    cases e.forgetsKeys <;> rfl
  refine ⟨fun q p hp => ?_, fun q n hn => ?_, fun q hq => ?_⟩
  · rw [Registry.get?_modify] at hp
    rw [hcell, hsets]
    by_cases hid : q = id
    · subst hid
      rw [if_pos rfl] at hp
      obtain ⟨p₀, hp₀, rfl⟩ := Option.map_eq_some_iff.1 hp
      rw [p₀.keyCache_after, h.remembered q p₀ hp₀]
      cases e.forgetsKeys <;> simp
    · rw [if_neg hid] at hp
      rw [if_neg (by simp [hid]), h.remembered q p hp]
  · rw [hcell] at hn
    rw [hsets]
    split at hn
    · cases hn
    · exact h.made q n hn
  · rw [Registry.get?_modify] at hq
    have hq' : r.get? q = none := by
      split at hq
      · exact Option.map_eq_none_iff.1 hq
      · exact hq
    rw [hcell, h.unknown q hq', ite_self]

/-- Asking makes the prototype remember what the cell then holds. -/
theorem Shows.ownKeys (h : k.Shows r) (id : ProtoId) :
    (k.perform r (.ownKeys id)).Shows (r.perform (.ownKeys id)) := by
  rw [Registry.perform_ownKeys, perform]
  cases hp : r.get? id with
  | none =>
    rw [Registry.modify_eq_self (by simp [hp])]
    exact h
  | some p =>
    have hcache := h.remembered id p hp
    simp only [ask]
    cases hcell : k.cell id with
    | some n =>
      -- the prototype remembers the set already
      have hlt := h.made id n hcell
      rw [hcell, Option.bind_some, Array.getElem?_eq_getElem hlt] at hcache
      have hsame : p.cacheKeys = p := by
        rw [Prototype.cacheKeys, Prototype.ownKeys, hcache, Option.getD_some, ← hcache]
      rw [Registry.modify_eq_self fun p' hp' => by
        rw [hp] at hp'
        cases hp'
        exact hsame]
      exact h
    | none =>
      rw [hcell, Option.bind_none] at hcache
      have hold : ∀ n, n < k.sets.size → (k.sets.push p.tableKeys)[n]? = k.sets[n]? := by
        intro n hlt
        rw [Array.getElem?_push, if_neg (Nat.ne_of_lt hlt)]
      refine ⟨fun q p' hp' => ?_, fun q n hn => ?_, fun q hq => ?_⟩
      · rw [Registry.get?_modify] at hp'
        simp only [setCell]
        by_cases hid : q = id
        · subst hid
          rw [if_pos rfl, hp, Option.map_some, Option.some.injEq] at hp'
          subst hp'
          rw [if_pos rfl, Option.bind_some, Array.getElem?_push_size]
          simp [Prototype.cacheKeys, Prototype.ownKeys, hcache]
        · rw [if_neg hid] at hp'
          rw [if_neg hid, h.remembered q p' hp']
          cases hn : k.cell q with
          | none => rfl
          | some n => exact (hold n (h.made q n hn)).symm
      · simp only [setCell, Array.size_push] at hn ⊢
        split at hn
        · cases hn
          omega
        · have hlt := h.made q n hn
          omega
      · rw [Registry.get?_modify] at hq
        simp only [setCell]
        by_cases hid : q = id
        · subst hid
          rw [if_pos rfl, hp] at hq
          cases hq
        · rw [if_neg hid] at hq
          rw [if_neg hid, h.unknown q hq]

theorem Shows.perform (h : k.Shows r) (step : Registry.Step) :
    (k.perform r step).Shows (r.perform step) := by
  cases step with
  | define name kind parent =>
    rcases r.perform_define name kind parent with hstep | hstep
    · rw [hstep]
      exact h
    · rw [hstep]
      exact h.push name kind parent
  | edit id e => exact h.edit id e
  | ownKeys id => exact h.ownKeys id

theorem Shows.performAll (h : k.Shows r) (steps : List Registry.Step) :
    (k.performAll r steps).Shows (r.performAll steps) := by
  induction steps generalizing k r with
  | nil => exact h
  | cons step rest ih => exact ih (h.perform step)

/-- The set that is handed out holds the own keys of the prototype. -/
theorem Shows.handedOut (h : k.Shows r) {id : ProtoId} {p : Prototype} (hp : r.get? id = some p) :
    (k.perform r (.ownKeys id)).sets[k.handedOut id]? = some p.ownKeys := by
  have hcache := h.remembered id p hp
  simp only [KeyShelf.perform, hp, ask, KeyShelf.handedOut]
  cases hcell : k.cell id with
  | some n =>
    have hlt := h.made id n hcell
    rw [hcell, Option.bind_some, Array.getElem?_eq_getElem hlt] at hcache
    rw [Option.getD_some, Array.getElem?_eq_getElem hlt, Prototype.ownKeys, hcache,
      Option.getD_some]
  | none =>
    rw [hcell, Option.bind_none] at hcache
    simp [setCell, Prototype.ownKeys, hcache]

end KeyShelf

namespace Session.Base

variable (base : Session.Base) (config : Config)

/-- The sets of keys that a setup has made. -/
def shelf (steps : List Registry.Step) : KeyShelf :=
  KeyShelf.performAll {} (base.registry config) steps

theorem keyCache_registry : ∀ p ∈ (base.registry config).prototypes, p.keyCache = none :=
  base.forall_registry config (fun _ => rfl) fun _ _ _ => rfl

theorem shows_history (steps : List Registry.Step) :
    (base.shelf config steps).Shows (base.history config steps) := by
  have hempty : KeyShelf.Shows {} (base.registry config) := by
    refine ⟨fun id p hp => ?_, by simp, by simp⟩
    exact base.keyCache_registry config p (Array.mem_of_getElem? hp)
  exact hempty.performAll steps

/-- A set that was handed out at some moment holds to the end what the prototype had then. -/
theorem sets_handedOut (before after : List Registry.Step) {id : ProtoId} {p : Prototype}
    (hp : (base.history config before).get? id = some p) :
    (base.shelf config (before ++ .ownKeys id :: after)).sets[
      (base.shelf config before).handedOut id]? = some p.ownKeys := by
  have hask := (base.shows_history config before).handedOut hp
  rw [shelf, KeyShelf.performAll_append]
  exact KeyShelf.extends_performAll _ _ after _ _ hask

end Session.Base

end ScriptRealm
