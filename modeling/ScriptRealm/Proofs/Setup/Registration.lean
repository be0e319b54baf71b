import ScriptRealm.Proofs.Setup.Keys
import ScriptRealm.Proofs.Setup.Naming

/-!
# Setups that differ in one registration

Two setups that take the same steps, but for the registration of one member in one of them. At each
moment the two registries are the same but for the tables of that prototype, and these have the same
members under all other names. Each step keeps it that way, so whole setups do.
-/

namespace ScriptRealm

/-! ## Tables -/

/-- The registration of a member in a table. -/
def NameTable.registration : NameTable → String → Accessor → Prototype.Edit
  | .properties => .property
  | .functions => .function
  | .staticProperties => .staticProperty
  | .staticFunctions => .staticFunction

namespace Assoc

variable {α : Type}

/-- Two associations with the same values for all names but one, for which the second one has a
value where the first one has. -/
structure SameBut (name : String) (a b : Assoc α) : Prop where
  find?_eq : ∀ k, k ≠ name → b.find? k = a.find? k
  has_name : (a.find? name).isSome → (b.find? name).isSome

variable {name : String} {a b : Assoc α}

theorem SameBut.refl (name : String) (a : Assoc α) : a.SameBut name a :=
  ⟨fun _ _ => rfl, id⟩

theorem sameBut_insert (a : Assoc α) (name : String) (v : α) : a.SameBut name (a.insert name v) :=
  ⟨fun _ hk => a.find?_insert_of_ne v hk, fun _ => by simp⟩

theorem SameBut.insert (h : a.SameBut name b) (k : String) (v : α) :
    (a.insert k v).SameBut name (b.insert k v) := by
  constructor
  · intro k' hk'
    by_cases hk : k' = k
    · subst hk
      simp
    · rw [b.find?_insert_of_ne v hk, a.find?_insert_of_ne v hk, h.find?_eq k' hk']
  · intro hname
    by_cases hk : name = k
    · subst hk
      simp
    · rw [a.find?_insert_of_ne v hk] at hname
      rw [b.find?_insert_of_ne v hk]
      exact h.has_name hname

end Assoc

/-! ## Prototypes -/

namespace Prototype

/-- A prototype without its tables and without the keys that it remembers. -/
def withoutTables (p : Prototype) : Prototype :=
  { p with
    properties := ∅, functions := ∅, staticProperties := ∅, staticFunctions := ∅, keyCache := none }

/-- Beside the tables, an edit does the same whatever stands in them. -/
theorem withoutTables_after (p : Prototype) (e : Edit) :
    (p.after e).withoutTables = (p.withoutTables.after e).withoutTables := by
  cases e with
  | setConstructor a =>
    rw [after_setConstructor, after_setConstructor]
    rfl
  | setCapability c =>
    rw [after_setCapability, after_setCapability]
    rfl
  | setView view supplier => cases view <;> rfl
  | _ => rfl

/-- What an edit does to a table: it registers one member there, or nothing. -/
theorem table_after (e : Edit) (t : NameTable) :
    (∃ name a, ∀ p : Prototype, (p.after e).table t = (p.table t).insert name a) ∨
    ∀ p : Prototype, (p.after e).table t = p.table t := by
  cases e with
  | property name a | function name a | staticProperty name a | staticFunction name a =>
    cases t <;> first
      | exact .inl ⟨name, a, fun _ => rfl⟩
      | exact .inr fun _ => rfl
  | setConstructor a =>
    refine .inr fun p => ?_
    rw [after_setConstructor]
    cases t <;> rfl
  | setCapability c =>
    refine .inr fun p => ?_
    rw [after_setCapability]
    cases t <;> rfl
  | setView view supplier => exact .inr fun _ => by cases view <;> cases t <;> rfl
  | _ => exact .inr fun _ => by cases t <;> rfl

/-- Two prototypes that differ at most in their members of one name, and in the keys that they
remember. -/
structure SameBut (name : String) (p p' : Prototype) : Prop where
  rest : p'.withoutTables = p.withoutTables
  table : ∀ t, (p.table t).SameBut name (p'.table t)

variable {name : String} {p p' : Prototype}

theorem SameBut.refl (name : String) (p : Prototype) : p.SameBut name p :=
  ⟨rfl, fun t => .refl name (p.table t)⟩

/-- The registration of a member changes nothing else. -/
theorem sameBut_after (p : Prototype) (t : NameTable) (name : String) (a : Accessor) :
    p.SameBut name (p.after (t.registration name a)) := by
  refine ⟨by cases t <;> rfl, fun t' => ?_⟩
  cases t <;> cases t' <;> first
    | exact Assoc.sameBut_insert _ name a
    | exact .refl name _

/-- What the two have in common, whatever is read off them without looking into the tables. -/
theorem SameBut.congr {α : Type} (h : p.SameBut name p') (f : Prototype → α)
    (hf : ∀ q, f q.withoutTables = f q) : f p' = f p := by
  rw [← hf p', h.rest, hf p]

theorem SameBut.outline (h : p.SameBut name p') : p'.outline = p.outline :=
  h.congr Prototype.outline fun _ => rfl

theorem SameBut.cacheKeys (h : p.SameBut name p') : p.cacheKeys.SameBut name p'.cacheKeys := by
  refine ⟨h.rest, fun t => ?_⟩
  have htable := h.table t
  cases t <;> exact htable

/-- The same edit of both keeps them the same but for the name. -/
theorem SameBut.after (h : p.SameBut name p') (e : Edit) :
    (p.after e).SameBut name (p'.after e) := by
  refine ⟨?_, fun t => ?_⟩
  · rw [withoutTables_after p', h.rest, ← withoutTables_after]
  · -- the edit reaches both tables or neither, under one name and with one member
    rcases table_after e t with ⟨k, a, hinsert⟩ | hkept
    · rw [hinsert, hinsert]
      exact (h.table t).insert k a
    · rw [hkept, hkept]
      exact h.table t

section

variable {p? p'? : Option Prototype}

theorem rel_sameBut_refl (name : String) (p? : Option Prototype) :
    Option.Rel (SameBut name) p? p? := by
  cases p? with
  | none => exact .none
  | some p => exact .some (.refl name p)

theorem rel_sameBut_map (h : Option.Rel (SameBut name) p? p'?) {f g : Prototype → Prototype}
    (hfg : ∀ {p p'}, p.SameBut name p' → (f p).SameBut name (g p')) :
    Option.Rel (SameBut name) (p?.map f) (p'?.map g) := by
  cases h with
  | none => exact .none
  | some h => exact .some (hfg h)

theorem make_congr (h : Option.Rel (SameBut name) p? p'?) (id : ProtoId) (given : String)
    (kind : ProtoKind) : make id given kind p'? = make id given kind p? := by
  cases h with
  | none => rfl
  | some h => exact h.congr (fun p => make id given kind (some p)) fun _ => rfl

end

end Prototype

/-! ## Registries -/

namespace Registry

/-- Two registries that differ at most in what one prototype holds under one name. -/
structure SameBut (id : ProtoId) (name : String) (r r' : Registry) : Prop where
  names : r'.names = r.names
  wellKnown : r'.wellKnown = r.wellKnown
  size : r'.prototypes.size = r.prototypes.size
  others : ∀ i : Nat, i ≠ id.index → r'.prototypes[i]? = r.prototypes[i]?
  edited : Option.Rel (Prototype.SameBut name) (r.get? id) (r'.get? id)

variable {id : ProtoId} {name : String} {r r' : Registry}

/-- The registration of a member is a difference under its name. -/
theorem sameBut_register (r : Registry) (id : ProtoId) (t : NameTable) (name : String)
    (a : Accessor) : r.SameBut id name (r.perform (.edit id (t.registration name a))) := by
  rw [perform_edit]
  refine ⟨rfl, rfl, Array.size_modify, fun i hi => ?_, ?_⟩
  · rw [getElem?_modify, if_neg (Ne.symm hi)]
  · rw [get?_modify, if_pos rfl]
    cases hid : r.get? id with
    | none => exact .none
    | some p => exact .some (p.sameBut_after t name a)

namespace SameBut

variable (h : r.SameBut id name r')
include h

theorem getElem? (i : Nat) :
    Option.Rel (Prototype.SameBut name) r.prototypes[i]? r'.prototypes[i]? := by
  by_cases hi : i = id.index
  · exact hi ▸ h.edited
  · rw [h.others i hi]
    exact Prototype.rel_sameBut_refl name _

/-- A position is taken in both or in neither. -/
theorem getElem?_cases (i : Nat) :
    (r.prototypes[i]? = none ∧ r'.prototypes[i]? = none) ∨
    ∃ p p', r.prototypes[i]? = some p ∧ r'.prototypes[i]? = some p' ∧ p.SameBut name p' := by
  have hsame := h.getElem? i
  revert hsame
  generalize r.prototypes[i]? = p?, r'.prototypes[i]? = p'?
  rintro (⟨hsame⟩ | _)
  · exact .inr ⟨_, _, rfl, rfl, hsame⟩
  · exact .inl ⟨rfl, rfl⟩

theorem modify (q : ProtoId) {f : Prototype → Prototype}
    (hf : ∀ {p p'}, p.SameBut name p' → (f p).SameBut name (f p')) :
    (r.modify q f).SameBut id name (r'.modify q f) := by
  refine ⟨h.names, h.wellKnown, ?_, fun i hi => ?_, ?_⟩
  · simp only [Registry.modify, Array.size_modify, h.size]
  · rw [getElem?_modify, getElem?_modify, h.others i hi]
  · rw [get?_modify, get?_modify]
    split
    · exact Prototype.rel_sameBut_map h.edited hf
    · exact h.edited

/-- A new prototype takes nothing from the tables of its parent. -/
theorem push (given : String) (kind : ProtoKind) (parent : Option ProtoId) :
    (r.push given kind parent).SameBut id name (r'.push given kind parent) := by
  have hid : r'.nextId = r.nextId := congrArg ProtoId.ofPosition h.size
  have hnew : Prototype.make r'.nextId given kind (parent.bind r'.get?) =
      .make r.nextId given kind (parent.bind r.get?) := by
    rw [hid]
    cases parent with
    | none => rfl
    | some q => exact Prototype.make_congr (h.getElem? q.index) _ _ _
  refine ⟨?_, h.wellKnown, ?_, fun i hi => ?_, ?_⟩
  · simp only [Registry.push, h.names, hid]
  · simp only [Registry.push, Array.size_push, h.size]
  · rw [getElem?_push, getElem?_push, hnew, h.size, h.others i hi]
  · rw [get?_push, get?_push, hnew, h.size]
    split
    · exact Prototype.rel_sameBut_refl name _
    · exact h.edited

/-- A definition is refused by both or by neither. -/
theorem define (given : String) (kind : ProtoKind) (parent : Option ProtoId) :
    (r.perform (.define given kind parent)).SameBut id name
      (r'.perform (.define given kind parent)) := by
  -- the checks look at the names and the number of prototypes, which are the same
  simp only [perform, Registry.define, h.names, h.size]
  cases r.names.contains given with
  | true => exact h
  | false =>
    cases parent with
    | none => exact h.push given kind none
    | some q =>
      by_cases hq : q.index < r.prototypes.size
      · simpa [hq] using h.push given kind (some q)
      · simpa [hq] using h

/-- Every step keeps two registries the same but for the name. -/
theorem perform (step : Step) : (r.perform step).SameBut id name (r'.perform step) := by
  cases step with
  | define given kind parent => exact h.define given kind parent
  | edit q e =>
    rw [perform_edit, perform_edit]
    exact h.modify q fun hsame => hsame.after e
  | ownKeys q =>
    rw [perform_ownKeys, perform_ownKeys]
    exact h.modify q fun hsame => hsame.cacheKeys

theorem performAll (steps : List Step) :
    (r.performAll steps).SameBut id name (r'.performAll steps) := by
  induction steps generalizing r r' with
  | nil => exact h
  | cons step rest ih => exact ih (h.perform step)

end SameBut

end Registry

/-- Two setups with the same steps, but for the registration of a member in one of them. -/
theorem Session.Base.sameBut_history (base : Session.Base) (config : Config)
    (before after : List Registry.Step) (id : ProtoId) (t : NameTable) (name : String)
    (a : Accessor) :
    (base.history config (before ++ after)).SameBut id name
      (base.history config (before ++ .edit id (t.registration name a) :: after)) := by
  rw [history, history, Registry.performAll_append, Registry.performAll_append]
  exact (Registry.sameBut_register _ id t name a).performAll after

end ScriptRealm
