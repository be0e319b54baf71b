import ScriptRealm.Session.Step

/-!
# Histories of a setup

The registries that a setup can reach: it begins with the well-known prototypes, bare or with the
built-in members, and takes any steps, refused ones among them. What a definition settles is the
outline of the prototype; later steps only put new outlines behind the old ones.
-/

namespace ScriptRealm

namespace Registry

/-- A step of a setup. -/
inductive Step where
  | define (name : String) (kind : ProtoKind) (parent : Option ProtoId)
  | edit (id : ProtoId) (e : Prototype.Edit)
  /-- asks for the own keys of a prototype, which remembers them -/
  | ownKeys (id : ProtoId)

/-- The registry after a step. A step that is refused changes nothing. -/
def perform (r : Registry) : Step → Registry
  | .define name kind parent =>
    match r.define name kind parent with
    | .ok (_, r) => r
    | .error _ => r
  | .edit id e =>
    match r.edit id e with
    | .ok r => r
    | .error _ => r
  | .ownKeys id =>
    match r.ownKeys? id with
    | some (_, r) => r
    | none => r

/-- The registry after some steps. -/
def performAll (r : Registry) (steps : List Step) : Registry :=
  steps.foldl perform r

/-- The outlines of the prototypes, by position. -/
def outlines (r : Registry) : List Prototype.Outline :=
  r.prototypes.toList.map (·.outline)

@[simp] theorem length_outlines (r : Registry) : r.outlines.length = r.prototypes.size := by
  simp [outlines]

theorem getElem?_outlines (r : Registry) (i : Nat) :
    r.outlines[i]? = r.prototypes[i]?.map (·.outline) := by
  simp [outlines]

theorem performAll_append (r : Registry) (first rest : List Step) :
    r.performAll (first ++ rest) = (r.performAll first).performAll rest :=
  List.foldl_append

end Registry

/-! ## Edits keep the outline -/

namespace Prototype

theorem outline_edit {p p' : Prototype} {e : Edit} (h : p.edit e = .ok p') :
    p'.outline = p.outline := by
  cases e with
  | setConstructor a =>
    simp only [edit] at h
    split at h
    · cases h
    · cases h
      rfl
  | setCapability c =>
    simp only [edit] at h
    split at h
    · cases h
    · cases h
      rfl
  | setView view supplier =>
    cases view <;> cases h <;> rfl
  | _ =>
    cases h
    rfl

@[simp] theorem outline_cacheKeys (p : Prototype) : p.cacheKeys.outline = p.outline := rfl

end Prototype

/-! ## Steps keep the outlines -/

namespace Registry

/-- Putting a prototype in the place of one with the same outline. -/
theorem outlines_set {r : Registry} {id : ProtoId} {p p' : Prototype} (hp : r.get? id = some p)
    (h : p'.outline = p.outline) : (r.set id p').outlines = r.outlines := by
  apply List.ext_getElem?
  intro i
  rw [getElem?_outlines, getElem?_outlines, set, Array.getElem?_setIfInBounds]
  by_cases hi : id.index = i
  · subst hi
    have hp' : r.prototypes[id.index]? = some p := hp
    obtain ⟨hlt, -⟩ := Array.getElem?_eq_some_iff.1 hp'
    rw [if_pos rfl, if_pos hlt, hp', Option.map_some, Option.map_some, h]
  · rw [if_neg hi]

/-- A new prototype comes behind the others. Its parent is one of them. -/
theorem outlines_push (r : Registry) (name : String) (kind : ProtoKind) (parent : Option ProtoId) :
    (r.push name kind parent).outlines =
      r.outlines ++
        [⟨r.nextId, name, kind, (parent.bind r.get?).map (·.id)⟩] := by
  have houtline : ∀ p?, (Prototype.make r.nextId name kind p?).outline =
      ⟨r.nextId, name, kind, p?.map (·.id)⟩ := by
    intro p?
    cases p? <;> rfl
  simp [outlines, push, houtline]

/-- An edit that is not refused puts the edited prototype in the place of the old one. -/
theorem edit_eq_set {r r' : Registry} {id : ProtoId} {e : Prototype.Edit}
    (h : r.edit id e = .ok r') :
    ∃ p p', r.get? id = some p ∧ p.edit e = .ok p' ∧ r' = r.set id p' := by
  unfold edit at h
  cases hp : r.get? id with
  | none => simp [hp] at h
  | some p =>
    cases he : p.edit e with
    | error cause => simp [hp, he] at h
    | ok p' =>
      simp only [hp, he, Except.ok.injEq] at h
      exact ⟨p, p', rfl, he, h.symm⟩

theorem ownKeys_eq_set {r r' : Registry} {id : ProtoId} {keys : List String}
    (h : r.ownKeys? id = some (keys, r')) :
    ∃ p, r.get? id = some p ∧ r' = r.set id p.cacheKeys := by
  unfold ownKeys? at h
  obtain ⟨p, hp, hr⟩ := Option.map_eq_some_iff.1 h
  exact ⟨p, hp, (Prod.mk.inj hr).2.symm⟩

/-- A definition that is not refused appends a prototype under a name that was free. -/
theorem define_eq_push {r r' : Registry} {name : String} {kind : ProtoKind}
    {parent : Option ProtoId} {id : ProtoId} (h : r.define name kind parent = .ok (id, r')) :
    r.names.contains name = false ∧ id = r.nextId ∧ r' = r.push name kind parent := by
  unfold define at h
  split at h
  · cases h
  · rename_i hfree
    have hname : r.names.contains name = false := by simpa using hfree
    split at h
    · split at h
      · cases h
        exact ⟨hname, rfl, rfl⟩
      · cases h
    · cases h
      exact ⟨hname, rfl, rfl⟩

/-- What a step can do to the registry: append a prototype under a free name, or keep all outlines
and names. -/
theorem perform_cases (r : Registry) (step : Step) :
    (∃ name kind parent, r.names.contains name = false ∧
      r.perform step = r.push name kind parent) ∨
    ((r.perform step).outlines = r.outlines ∧ (r.perform step).names = r.names) := by
  cases step with
  | define name kind parent =>
    cases hd : r.define name kind parent with
    | error cause => exact .inr (by simp only [perform, hd, and_self])
    | ok result =>
      obtain ⟨id, r'⟩ := result
      obtain ⟨hfree, -, hpush⟩ := define_eq_push hd
      exact .inl ⟨name, kind, parent, hfree, by simp only [perform, hd, hpush]⟩
  | edit id e =>
    cases he : r.edit id e with
    | error cause => exact .inr (by simp only [perform, he, and_self])
    | ok r' =>
      obtain ⟨p, p', hp, hedit, hset⟩ := edit_eq_set he
      right
      simp only [perform, he, hset]
      exact ⟨outlines_set hp (Prototype.outline_edit hedit), rfl⟩
  | ownKeys id =>
    cases hk : r.ownKeys? id with
    | none => exact .inr (by simp only [perform, hk, and_self])
    | some result =>
      obtain ⟨keys, r'⟩ := result
      obtain ⟨p, hp, hset⟩ := ownKeys_eq_set hk
      right
      simp only [perform, hk, hset]
      exact ⟨outlines_set hp p.outline_cacheKeys, rfl⟩

/-- No step touches the outlines that are there. -/
theorem outlines_prefix_perform (r : Registry) (step : Step) :
    r.outlines <+: (r.perform step).outlines := by
  rcases perform_cases r step with ⟨name, kind, parent, -, h⟩ | ⟨h, -⟩
  · rw [h, outlines_push]
    exact List.prefix_append _ _
  · exact h ▸ List.prefix_refl _

theorem outlines_prefix_performAll (r : Registry) (steps : List Step) :
    r.outlines <+: (r.performAll steps).outlines := by
  induction steps generalizing r with
  | nil => exact List.prefix_refl _
  | cons step rest ih => exact (outlines_prefix_perform r step).trans (ih (r.perform step))

/-- The built-in members leave the outlines as they are. -/
theorem outlines_core (hostObjectName : String) :
    (Registry.core hostObjectName).outlines = (Registry.bare hostObjectName).outlines := by
  have hinstall : ∀ (r : Registry) (role : Role),
      (Builtin.install r role).outlines = r.outlines := by
    intro r role
    apply List.ext_getElem?
    intro i
    rw [getElem?_outlines, getElem?_outlines, Builtin.install, Array.getElem?_modify]
    split
    · cases r.prototypes[i]? <;> rfl
    · rfl
  have hroles : ∀ (roles : List Role) (r : Registry),
      (roles.foldl Builtin.install r).outlines = r.outlines := by
    intro roles
    induction roles with
    | nil => intro r; rfl
    | cons role rest ih => intro r; exact (ih _).trans (hinstall r role)
  exact hroles Builtin.roles _

end Registry

/-! ## Steps that change one prototype -/

namespace Prototype

/-- A prototype after an edit. One that is refused changes nothing. -/
def after (p : Prototype) (e : Edit) : Prototype :=
  match p.edit e with
  | .ok p' => p'
  | .error _ => p

/-- The constructor that is set first stays. -/
theorem after_setConstructor (p : Prototype) (a : Accessor) :
    p.after (.setConstructor a) = { p with constructor? := p.constructor?.or (some a) } := by
  cases hset : p.constructor? with
  | none =>
    simp only [after, edit, hset]
    rfl
  | some first =>
    simp only [after, edit, hset, Option.some_or]
    rw [← hset]

/-- The capability that is set first stays. -/
theorem after_setCapability (p : Prototype) (c : Capability) :
    p.after (.setCapability c) = { p with capability? := p.capability?.or (some c) } := by
  cases hset : p.capability? with
  | none =>
    simp only [after, edit, hset]
    rfl
  | some first =>
    simp only [after, edit, hset, Option.some_or]
    rw [← hset]

end Prototype

namespace Registry

/-- Applies a function to the prototype of a handle. -/
def modify (r : Registry) (id : ProtoId) (f : Prototype → Prototype) : Registry :=
  { r with prototypes := r.prototypes.modify id.index f }

theorem get?_push (r : Registry) (name : String) (kind : ProtoKind) (parent : Option ProtoId)
    (q : ProtoId) :
    (r.push name kind parent).get? q =
      if q.index = r.prototypes.size then
        some (.make r.nextId name kind (parent.bind r.get?))
      else r.get? q :=
  Array.getElem?_push

theorem get?_modify (r : Registry) (id : ProtoId) (f : Prototype → Prototype) (q : ProtoId) :
    (r.modify id f).get? q = if q = id then (r.get? q).map f else r.get? q := by
  have hindex : id.index = q.index ↔ q = id := by
    rw [ProtoId.ext_index_iff, eq_comm]
  simp only [get?, modify, Array.getElem?_modify, hindex]

theorem set_eq_modify {r : Registry} {id : ProtoId} {p : Prototype} (f : Prototype → Prototype)
    (hp : r.get? id = some p) : r.set id (f p) = r.modify id f := by
  have hprototypes : r.prototypes.setIfInBounds id.index (f p) =
      r.prototypes.modify id.index f := by
    apply Array.ext_getElem?
    intro i
    rw [Array.getElem?_setIfInBounds, Array.getElem?_modify]
    by_cases hi : id.index = i
    · subst hi
      have hp' : r.prototypes[id.index]? = some p := hp
      have hlt := (Array.getElem?_eq_some_iff.1 hp').1
      rw [if_pos rfl, if_pos hlt, if_pos rfl, hp', Option.map_some]
    · rw [if_neg hi, if_neg hi]
  rw [set, modify, hprototypes]

theorem modify_eq_self {r : Registry} {id : ProtoId} {f : Prototype → Prototype}
    (h : ∀ p, r.get? id = some p → f p = p) : r.modify id f = r := by
  have hprototypes : r.prototypes.modify id.index f = r.prototypes := by
    apply Array.ext_getElem?
    intro i
    rw [Array.getElem?_modify]
    split
    · rename_i hi
      subst hi
      cases hget : r.prototypes[id.index]? with
      | none => rfl
      | some p => exact congrArg some (h p hget)
    · rfl
  rw [modify, hprototypes]

/-- An edit changes one prototype, unless it is refused. -/
theorem perform_edit (r : Registry) (id : ProtoId) (e : Prototype.Edit) :
    r.perform (.edit id e) = r.modify id (Prototype.after · e) := by
  cases hedit : r.edit id e with
  | ok r' =>
    obtain ⟨p, p', hp, he, hset⟩ := edit_eq_set hedit
    have hafter : p.after e = p' := by rw [Prototype.after, he]
    rw [← set_eq_modify _ hp, hafter, ← hset, perform, hedit]
  | error cause =>
    have hsame : ∀ p, r.get? id = some p → p.after e = p := by
      intro p hp
      cases he : p.edit e with
      | ok p' => simp [edit, hp, he] at hedit
      | error cause => rw [Prototype.after, he]
    rw [modify_eq_self hsame, perform, hedit]

theorem perform_ownKeys (r : Registry) (id : ProtoId) :
    r.perform (.ownKeys id) = r.modify id Prototype.cacheKeys := by
  cases hp : r.get? id with
  | none =>
    have hsame : ∀ p, r.get? id = some p → p.cacheKeys = p := by simp [hp]
    simp only [perform, ownKeys?, hp, Option.map_none, modify_eq_self hsame]
  | some p => simp only [perform, ownKeys?, hp, Option.map_some, set_eq_modify _ hp]

/-- A definition appends a prototype, unless it is refused. -/
theorem perform_define (r : Registry) (name : String) (kind : ProtoKind) (parent : Option ProtoId) :
    r.perform (.define name kind parent) = r ∨
    r.perform (.define name kind parent) = r.push name kind parent := by
  rcases hdefine : r.define name kind parent with cause | ⟨id, r'⟩
  · exact .inl (by simp only [perform, hdefine])
  · obtain ⟨-, -, hpush⟩ := define_eq_push hdefine
    exact .inr (by simp only [perform, hdefine, hpush])

/-! ## What steps do to a prototype that is there -/

/-- The prototype at a position after a step. A definition leaves it as it is. -/
def Step.onPrototype (step : Step) (i : Nat) (p : Prototype) : Prototype :=
  match step with
  | .define _ _ _ => p
  | .edit target e => if target.index = i then p.after e else p
  | .ownKeys target => if target.index = i then p.cacheKeys else p

variable {r : Registry} {i : Nat} {id : ProtoId} {p : Prototype}

theorem getElem?_modify (r : Registry) (id : ProtoId) (f : Prototype → Prototype) (i : Nat) :
    (r.modify id f).prototypes[i]? =
      if id.index = i then r.prototypes[i]?.map f else r.prototypes[i]? :=
  Array.getElem?_modify

theorem getElem?_push (r : Registry) (name : String) (kind : ProtoKind) (parent : Option ProtoId)
    (i : Nat) :
    (r.push name kind parent).prototypes[i]? =
      if i = r.prototypes.size then some (.make r.nextId name kind (parent.bind r.get?))
      else r.prototypes[i]? :=
  Array.getElem?_push

theorem getElem?_perform (hp : r.prototypes[i]? = some p) (step : Step) :
    (r.perform step).prototypes[i]? = some (step.onPrototype i p) := by
  cases step with
  | define name kind parent =>
    rcases r.perform_define name kind parent with hstep | hstep
    · rw [hstep, hp]
      rfl
    · have hlt : i < r.prototypes.size := (Array.getElem?_eq_some_iff.1 hp).1
      rw [hstep, getElem?_push, if_neg (Nat.ne_of_lt hlt), hp]
      rfl
  | edit target e =>
    rw [perform_edit, getElem?_modify, hp, Step.onPrototype]
    split <;> rfl
  | ownKeys target =>
    rw [perform_ownKeys, getElem?_modify, hp, Step.onPrototype]
    split <;> rfl

/-- What every one of some steps keeps of a prototype holds of it after them. -/
theorem exists_performAll {good : Prototype → Prop} {steps : List Step}
    (hsteps : ∀ step ∈ steps, ∀ q, good q → good (step.onPrototype i q))
    (hp : r.prototypes[i]? = some p) (h : good p) :
    ∃ p', (r.performAll steps).prototypes[i]? = some p' ∧ good p' := by
  induction steps generalizing r p with
  | nil => exact ⟨p, hp, h⟩
  | cons step rest ih =>
    rw [List.forall_mem_cons] at hsteps
    exact ih hsteps.2 (getElem?_perform hp step) (hsteps.1 p h)

/-- A prototype that is there after a step, and was not there before, is the one that the step has
defined. -/
theorem define_of_new {step : Step} (hnew : r.prototypes[i]? = none)
    (hp : (r.perform step).prototypes[i]? = some p) :
    ∃ name kind parent r', step = .define name kind parent ∧
      r.define name kind parent = .ok (r.nextId, r') ∧ i = r.prototypes.size := by
  cases step with
  | define name kind parent =>
    rcases hdefine : r.define name kind parent with cause | ⟨given, r'⟩
    · simp only [perform, hdefine] at hp
      rw [hnew] at hp
      cases hp
    · obtain ⟨-, rfl, rfl⟩ := define_eq_push hdefine
      simp only [perform, hdefine, getElem?_push] at hp
      split at hp
      · rename_i hend
        exact ⟨name, kind, parent, _, rfl, hdefine, hend⟩
      · rw [hnew] at hp
        cases hp
  | edit target e =>
    rw [perform_edit, getElem?_modify, hnew] at hp
    split at hp <;> cases hp
  | ownKeys target =>
    rw [perform_ownKeys, getElem?_modify, hnew] at hp
    split at hp <;> cases hp

/-- A definition puts the new prototype behind the others. -/
theorem getElem?_of_define {r' : Registry} {name : String} {kind : ProtoKind}
    {parent : Option ProtoId} (h : r.define name kind parent = .ok (id, r')) :
    (r.perform (.define name kind parent)).prototypes[r.prototypes.size]? =
      some (.make r.nextId name kind (parent.bind r.get?)) := by
  obtain ⟨-, rfl, rfl⟩ := define_eq_push h
  simp only [perform, h, getElem?_push, if_pos]

theorem exists_parent_of_define {r' : Registry} {name : String} {kind : ProtoKind}
    {parent : ProtoId} (h : r.define name kind (some parent) = .ok (id, r')) :
    ∃ p, r.get? parent = some p := by
  unfold define at h
  split at h
  · cases h
  · simp only at h
    split at h
    · rename_i hlt
      exact ⟨_, Array.getElem?_eq_getElem hlt⟩
    · cases h

end Registry

/-- The context of a registry that is frozen. -/
def Registry.context (r : Registry) (host : Host) (converter : Converter) (config : Config) :
    Context :=
  ⟨r.freeze, host, converter, config⟩

theorem Registry.get?_context (r : Registry) (host : Host) (converter : Converter) (config : Config)
    (q : ProtoId) : (r.context host converter config).realm.get? q = r.freeze.get? q := rfl

/-- The registry at the end of a setup. -/
def Session.Base.history (base : Session.Base) (config : Config) (steps : List Registry.Step) :
    Registry :=
  (base.registry config).performAll steps

theorem Session.Base.history_append_cons (base : Session.Base) (config : Config)
    (before after : List Registry.Step) (step : Registry.Step) :
    base.history config (before ++ step :: after) =
      ((base.history config before).perform step).performAll after := by
  rw [history, Registry.performAll_append]
  rfl

end ScriptRealm
