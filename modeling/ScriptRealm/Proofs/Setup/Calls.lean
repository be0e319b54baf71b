import ScriptRealm.Proofs.Setup.Naming

/-!
# Calls that change a registry in place

A setup works on one registry in place, field by field, and a call that fails leaves whatever it has
done so far. So it is not by definition that a refused call changes nothing: it is because every
call checks before it writes. Here the calls are written out as they go, and shown to do what the
steps of a setup do.
-/

namespace ScriptRealm

/-- A call that works on a state in place, and may fail. What it has done by then stays. -/
abbrev InPlace (σ ε α : Type) := ExceptT ε (StateM σ) α

namespace InPlace

variable {σ ε α β : Type} (s : σ)

/-- The outcome of a call on a state, and the state that it leaves. -/
def on (call : InPlace σ ε α) (s : σ) : Except ε α × σ :=
  (call.run.run s).run

@[simp] theorem on_pure (a : α) : on (pure a : InPlace σ ε α) s = (.ok a, s) := rfl

@[simp] theorem on_get : on (get : InPlace σ ε σ) s = (.ok s, s) := rfl

@[simp] theorem on_modify (f : σ → σ) : on (modify f : InPlace σ ε PUnit) s = (.ok ⟨⟩, f s) := rfl

@[simp] theorem on_throw (cause : ε) : on (throw cause : InPlace σ ε α) s = (.error cause, s) := rfl

@[simp] theorem on_bind (call : InPlace σ ε α) (next : α → InPlace σ ε β) :
    on (call >>= next) s =
      match on call s with
      | (.ok a, s') => on (next a) s'
      | (.error cause, s') => (.error cause, s') := by
  simp only [on, ExceptT.run_bind, StateT.run_bind, Id.run_bind]
  rcases (StateT.run (ExceptT.run call) s).run with ⟨a | cause, s'⟩ <;> rfl

@[simp] theorem on_ite (c : Prop) [Decidable c] (call other : InPlace σ ε α) :
    on (if c then call else other) s = if c then on call s else on other s := by
  split <;> rfl

end InPlace

/-! ## Calls on a prototype -/

namespace Prototype

/-- An edit, field by field. -/
def Edit.call : Edit → InPlace Prototype Misuse Unit
  | .property name a => do
    modify fun p => { p with properties := p.properties.insert name a }
    modify fun p => { p with keyCache := none }
  | .function name a => do
    modify fun p => { p with functions := p.functions.insert name a }
    modify fun p => { p with keyCache := none }
  | .staticProperty name a =>
    modify fun p => { p with staticProperties := p.staticProperties.insert name a }
  | .staticFunction name a =>
    modify fun p => { p with staticFunctions := p.staticFunctions.insert name a }
  | .setConstructor a => do
    if (← get).constructor?.isSome then
      throw (.constructorSet (← get).name)
    modify fun p => { p with constructor? := some a }
  | .setCapability c => do
    if (← get).capability?.isSome then
      throw (.capabilitySet (← get).name)
    modify fun p => { p with capability? := some c }
  | .setAsString f => modify fun p => { p with asString := f }
  | .setAsNumber f => modify fun p => { p with asNumber := f }
  | .setAsBoolean f => modify fun p => { p with asBoolean := f }
  | .setView .keys supplier => modify fun p => { p with keyList := supplier }
  | .setView .values supplier => modify fun p => { p with valueList := supplier }
  | .setView .entries supplier => modify fun p => { p with entryList := supplier }

/-- The call of an edit fails where the edit is refused, and then it has written nothing. -/
theorem on_call (e : Edit) (p : Prototype) :
    e.call.on p =
      match p.edit e with
      | .ok p' => (.ok (), p')
      | .error cause => (.error cause, p) := by
  cases e with
  | setConstructor a =>
    cases hset : p.constructor? <;> simp [Edit.call, edit, hset]
  | setCapability c =>
    cases hset : p.capability? <;> simp [Edit.call, edit, hset]
  | setView view supplier => cases view <;> rfl
  | _ => rfl

end Prototype

/-! ## Calls on a registry -/

namespace Setup

/-- Appends a prototype, then binds its name. -/
def push (name : String) (kind : ProtoKind) (parent : Option ProtoId) :
    InPlace Registry SetupError ProtoId := do
  let id := (← get).nextId
  let above := parent.bind (← get).get?
  modify fun r => { r with prototypes := r.prototypes.push (.make id name kind above) }
  modify fun r => { r with names := r.names.insert name id }
  return id

/-- Defines a prototype, after a look at the name and one at the parent. -/
def define (name : String) (kind : ProtoKind) (parent : Option ProtoId) :
    InPlace Registry SetupError ProtoId := do
  if (← get).names.contains name then
    throw (.misuse (.nameTaken name))
  if let some q := parent then
    if (← get).prototypes.size ≤ q.index then
      throw (.misuse (.unknownParent q name))
  push name kind parent

/-- Hands a prototype out to be changed. What the call leaves of it lies in the registry then. -/
def change (id : ProtoId) (call : InPlace Prototype Misuse Unit) :
    InPlace Registry SetupError Unit := do
  match (← get).get? id with
  | none => throw (.unknownHandle id)
  | some p =>
    let result := call.on p
    modify (·.set id result.2)
    match result.1 with
    | .ok () => return ()
    | .error cause => throw (.misuse cause)

theorem on_push (name : String) (kind : ProtoKind) (parent : Option ProtoId) (r : Registry) :
    (push name kind parent).on r = (.ok r.nextId, r.push name kind parent) := rfl

/-- A definition fails where it is refused, and then it has written nothing. -/
theorem on_define (name : String) (kind : ProtoKind) (parent : Option ProtoId) (r : Registry) :
    (define name kind parent).on r =
      match r.define name kind parent with
      | .ok (id, r') => (.ok id, r')
      | .error cause => (.error (.misuse cause), r) := by
  unfold Registry.define
  -- the call looks at the name before the parent, as the step does
  cases htaken : r.names.contains name with
  | true => simp [define, htaken]
  | false =>
    cases parent with
    | none => simp [define, htaken, on_push]
    | some q =>
      by_cases hlt : q.index < r.prototypes.size
      · simp [define, htaken, hlt, on_push]
      · simp [define, htaken, hlt]

/-- A change of a prototype fails where the edit is refused, and then it has changed nothing. -/
theorem on_change (id : ProtoId) (e : Prototype.Edit) (r : Registry) :
    (change id e.call).on r =
      match r.edit id e with
      | .ok r' => (.ok (), r')
      | .error cause => (.error cause, r) := by
  unfold Registry.edit
  cases hp : r.get? id with
  | none => simp [change, hp]
  | some p =>
    cases hedit : p.edit e with
    | ok p' => simp [change, hp, Prototype.on_call, hedit]
    | error cause =>
      -- the prototype is put back though the call failed, so it has to be the old one
      have hback : r.set id p = r := by
        rw [Registry.set_eq_modify (fun _ => p) hp]
        exact Registry.modify_eq_self fun q hq => Option.some.inj (hp.symm.trans hq)
      simp [change, hp, Prototype.on_call, hedit, hback]

/-- A step of a setup, as the call that it is. -/
def call : Registry.Step → InPlace Registry SetupError Unit
  | .define name kind parent => do
    let _ ← define name kind parent
  | .edit id e => change id e.call
  | .ownKeys id => change id (modify Prototype.cacheKeys)

/-- A call leaves the registry that the step gives, whether it fails or not. -/
theorem on_call (step : Registry.Step) (r : Registry) :
    ((call step).on r).2 = r.perform step := by
  cases step with
  | define name kind parent =>
    rw [call, InPlace.on_bind, on_define, Registry.perform]
    rcases r.define name kind parent with cause | ⟨id, r'⟩ <;> rfl
  | edit id e =>
    rw [call, on_change, Registry.perform]
    cases r.edit id e <;> rfl
  | ownKeys id =>
    rw [Registry.perform_ownKeys]
    cases hp : r.get? id with
    | none =>
      have hsame : ∀ p, r.get? id = some p → p.cacheKeys = p := by simp [hp]
      simp [call, change, hp, Registry.modify_eq_self hsame]
    | some p => simp [call, change, hp, Registry.set_eq_modify _ hp]

end Setup

/-! ## Names and parents -/

namespace Registry

variable {r : Registry} {name : String} (kind : ProtoKind) {parent : Option ProtoId}

theorem define_taken (h : r.names.contains name = true) (parent : Option ProtoId) :
    r.define name kind parent = .error (.nameTaken name) := by
  simp only [define, if_pos h]

theorem define_unknown (h : ¬r.names.contains name = true) {q : ProtoId} (hq : r.get? q = none) :
    r.define name kind (some q) = .error (.unknownParent q name) := by
  have hge : ¬q.index < r.prototypes.size := Nat.not_lt.2 (Array.getElem?_eq_none_iff.1 hq)
  simp only [define, if_neg h, if_neg hge]

theorem define_free (h : ¬r.names.contains name = true)
    (hparent : ∀ q, parent = some q → ∃ p, r.get? q = some p) :
    r.define name kind parent = .ok (r.nextId, r.push name kind parent) := by
  cases parent with
  | none => simp only [define, if_neg h]
  | some q =>
    obtain ⟨p, hp⟩ := hparent q rfl
    have hlt : q.index < r.prototypes.size := (Array.getElem?_eq_some_iff.1 hp).1
    simp only [define, if_neg h, if_pos hlt]

theorem define_root (h : ¬r.names.contains name = true) :
    r.define name kind none = .ok (r.nextId, r.push name kind none) :=
  define_free kind h fun _ hq => absurd hq (Option.some_ne_none _).symm

/-- The second registry has one prototype more than the first, behind the others and under a name of
its own. -/
structure Appends (r r' : Registry) (name : String) (kind : ProtoKind) (parent : Option ProtoId) :
    Prop where
  size : r'.prototypes.size = r.prototypes.size + 1
  added : ∃ p, r'.prototypes[r.prototypes.size]? = some p ∧
    p.outline = ⟨r.nextId, name, kind, parent⟩
  kept : ∀ (i : Nat) (p : Prototype), r.prototypes[i]? = some p → r'.prototypes[i]? = some p
  bound : r'.find? name = some r.nextId
  bindings : ∀ other, other ≠ name → r'.find? other = r.find? other
  wellKnown : r'.wellKnown = r.wellKnown
  /-- as long as the handles last, the new one points at the new prototype -/
  handle : r.prototypes.size < ProtoId.count → r.nextId.index = r.prototypes.size

theorem appends_push (h : Ancestral r.outlines)
    (hparent : ∀ q, parent = some q → ∃ p, r.get? q = some p) :
    r.Appends (r.push name kind parent) name kind parent where
  size := Array.size_push _
  added := by
    refine ⟨_, by rw [getElem?_push, if_pos rfl], ?_⟩
    cases parent with
    | none => rfl
    | some q =>
      obtain ⟨p, hp⟩ := hparent q rfl
      rw [Option.bind_some, hp, ← id_eq_of_get? h hp]
      rfl
  kept i p hp := by
    have hlt : i < r.prototypes.size := (Array.getElem?_eq_some_iff.1 hp).1
    rw [getElem?_push, if_neg (Nat.ne_of_lt hlt), hp]
  bound := r.names.find?_insert_self name _
  bindings other hother := r.names.find?_insert_of_ne _ hother
  wellKnown := rfl
  handle := ProtoId.index_ofPosition_of_lt

end Registry

/-! ## Slots that can be filled once -/

/-- The slots of a prototype that can be filled once. -/
inductive SingleSlot where
  | constructor
  | capability
deriving DecidableEq, Repr

namespace SingleSlot

/-- What a slot holds. -/
abbrev Content : SingleSlot → Type
  | .constructor => Accessor
  | .capability => Capability

def content? : (slot : SingleSlot) → Prototype → Option slot.Content
  | .constructor, p => p.constructor?
  | .capability, p => p.capability?

/-- The edit that fills a slot. -/
def edit : (slot : SingleSlot) → slot.Content → Prototype.Edit
  | .constructor, a => .setConstructor a
  | .capability, c => .setCapability c

/-- A prototype with a slot filled, and the same beside. -/
def fill : (slot : SingleSlot) → slot.Content → Prototype → Prototype
  | .constructor, a, p => { p with constructor? := some a }
  | .capability, c, p => { p with capability? := some c }

/-- What filling a slot twice is refused with. -/
def misuse : SingleSlot → String → Misuse
  | .constructor => .constructorSet
  | .capability => .capabilitySet

variable (slot : SingleSlot)

theorem edit_eq (c : slot.Content) (p : Prototype) :
    p.edit (slot.edit c) =
      if (slot.content? p).isSome then .error (slot.misuse p.name) else .ok (slot.fill c p) := by
  cases slot with
  | constructor =>
    cases hset : p.constructor? <;> simp [edit, content?, fill, misuse, Prototype.edit, hset]
  | capability =>
    cases hset : p.capability? <;> simp [edit, content?, fill, misuse, Prototype.edit, hset]

/-- The call that fills a slot is refused where it is filled, and then it changes nothing. -/
theorem on_change {r : Registry} {id : ProtoId} {p : Prototype} (hp : r.get? id = some p)
    (c : slot.Content) :
    (Setup.change id (slot.edit c).call).on r =
      if (slot.content? p).isSome then (.error (.misuse (slot.misuse p.name)), r)
      else (.ok (), r.set id (slot.fill c p)) := by
  by_cases hset : (slot.content? p).isSome
  · simp only [Setup.on_change, Registry.edit, hp, slot.edit_eq, if_pos hset]
  · simp only [Setup.on_change, Registry.edit, hp, slot.edit_eq, if_neg hset]

/-- What a slot holds first stays. -/
theorem content?_after_edit (c : slot.Content) (p : Prototype) :
    slot.content? (p.after (slot.edit c)) = (slot.content? p).or (some c) := by
  cases slot with
  | constructor =>
    rw [edit, Prototype.after_setConstructor]
    rfl
  | capability =>
    rw [edit, Prototype.after_setCapability]
    rfl

/-- An edit fills a slot, or leaves it as it is. -/
theorem edit_cases (e : Prototype.Edit) :
    (∃ c, e = slot.edit c) ∨ ∀ p : Prototype, slot.content? (p.after e) = slot.content? p := by
  cases slot with
  | constructor =>
    cases e with
    | setConstructor a => exact .inl ⟨a, rfl⟩
    | setCapability c => exact .inr fun p => by rw [Prototype.after_setCapability]; rfl
    | setView view supplier => exact .inr fun p => by cases view <;> rfl
    | _ => exact .inr fun p => rfl
  | capability =>
    cases e with
    | setCapability c => exact .inl ⟨c, rfl⟩
    | setConstructor a => exact .inr fun p => by rw [Prototype.after_setConstructor]; rfl
    | setView view supplier => exact .inr fun p => by cases view <;> rfl
    | _ => exact .inr fun p => rfl

/-- A new prototype has its slots empty. -/
theorem content?_make (id : ProtoId) (name : String) (kind : ProtoKind)
    (parent : Option Prototype) :
    slot.content? (.make id name kind parent) = none := by
  cases parent <;> cases slot <;> rfl

/-- A step fills a slot of a prototype, or leaves it as it is. -/
theorem step_cases (step : Registry.Step) (id : ProtoId) :
    (∃ c, step = .edit id (slot.edit c)) ∨
    ∀ p : Prototype, slot.content? (step.onPrototype id.index p) = slot.content? p := by
  cases step with
  | define name kind parent => exact .inr fun p => rfl
  | edit target e =>
    by_cases htarget : target = id
    · subst htarget
      simp only [Registry.Step.onPrototype, if_pos]
      rcases slot.edit_cases e with ⟨c, rfl⟩ | hkept
      · exact .inl ⟨c, rfl⟩
      · exact .inr hkept
    · rw [ProtoId.ext_index_iff] at htarget
      exact .inr fun p => by rw [Registry.Step.onPrototype, if_neg htarget]
  | ownKeys target =>
    right
    intro p
    rw [Registry.Step.onPrototype]
    split
    · cases slot <;> rfl
    · rfl

/-- No step empties a slot. -/
theorem isSome_onPrototype {p : Prototype} (h : (slot.content? p).isSome) (step : Registry.Step)
    (id : ProtoId) : (slot.content? (step.onPrototype id.index p)).isSome := by
  rcases slot.step_cases step id with ⟨c, rfl⟩ | hkept
  · rw [Registry.Step.onPrototype, if_pos rfl, content?_after_edit, Option.isSome_or, h,
      Bool.true_or]
  · rw [hkept]
    exact h

end SingleSlot

/-- A slot of a prototype was filled in a setup: it was filled from the beginning, or by a step at
which the prototype was there. -/
def Session.Base.Filled (base : Session.Base) (config : Config) (steps : List Registry.Step)
    (id : ProtoId) (slot : SingleSlot) : Prop :=
  (∃ p, (base.registry config).get? id = some p ∧ (slot.content? p).isSome) ∨
  ∃ before c after, steps = before ++ .edit id (slot.edit c) :: after ∧
    ((base.history config before).get? id).isSome

namespace Session.Base

variable {base : Session.Base} {config : Config} {steps : List Registry.Step} {id : ProtoId}
  {slot : SingleSlot}

/-- A slot that was filled at some time is filled. -/
theorem Filled.content? (h : base.Filled config steps id slot) :
    ∃ p, (base.history config steps).get? id = some p ∧ (slot.content? p).isSome := by
  have hkeeps : ∀ later : List Registry.Step, ∀ step ∈ later, ∀ q : Prototype,
      (slot.content? q).isSome → (slot.content? (step.onPrototype id.index q)).isSome :=
    fun _ step _ q hq => slot.isSome_onPrototype hq step id
  rcases h with ⟨p, hp, hfilled⟩ | ⟨before, c, after, rfl, hknown⟩
  · exact Registry.exists_performAll (hkeeps steps) hp hfilled
  · obtain ⟨p, hp⟩ := Option.isSome_iff_exists.1 hknown
    rw [history_append_cons]
    refine Registry.exists_performAll (hkeeps after) (Registry.getElem?_perform hp _) ?_
    rw [Registry.Step.onPrototype, if_pos rfl, SingleSlot.content?_after_edit, Option.isSome_or,
      Option.isSome_some, Bool.or_true]

theorem Filled.concat (h : base.Filled config steps id slot) (step : Registry.Step) :
    base.Filled config (steps ++ [step]) id slot := by
  rcases h with h | ⟨before, c, after, rfl, hknown⟩
  · exact .inl h
  · exact .inr ⟨before, c, after ++ [step], by simp, hknown⟩

/-- A slot that is filled was filled at some time. -/
theorem filled_of_content? {p : Prototype} (hp : (base.history config steps).get? id = some p)
    (h : (slot.content? p).isSome) : base.Filled config steps id slot := by
  induction steps using List.reverseRecOn generalizing p with
  | nil => exact .inl ⟨p, hp, h⟩
  | append_singleton before step ih =>
    rw [history_append_cons] at hp
    have hafter : ((base.history config before).perform step).prototypes[id.index]? = some p := hp
    cases hbefore : (base.history config before).prototypes[id.index]? with
    | none =>
      -- a prototype that the step has defined has all slots empty
      obtain ⟨name, kind, parent, r, rfl, hdefine, hend⟩ := Registry.define_of_new hbefore hafter
      rw [hend, Registry.getElem?_of_define hdefine] at hafter
      rw [← Option.some.inj hafter, slot.content?_make] at h
      cases h
    | some q =>
      have hstep : step.onPrototype id.index q = p :=
        Option.some.inj ((Registry.getElem?_perform hbefore step).symm.trans hafter)
      have hknown : (base.history config before).get? id = some q := hbefore
      rcases slot.step_cases step id with ⟨c, rfl⟩ | hkept
      · exact .inr ⟨before, c, [], rfl, by rw [hknown]; rfl⟩
      · rw [← hstep, hkept] at h
        exact (ih hknown h).concat step

end Session.Base

/-- A call of a setup changes all that it is to change, or nothing. After any setup, a definition
under a name that some prototype has, or with a parent that is not there, is refused, and so is
filling a slot that was filled before; the registry is then left as it was. Any other definition
appends one prototype, and changes nothing else. Its handle is the number of prototypes that were
there, as long as there is a handle for it. -/
theorem calls_all_or_nothing (base : Session.Base) (config : Config) (steps : List Registry.Step) :
    let r := base.history config steps
    (∀ step, ((Setup.call step).on r).2 = base.history config (steps ++ [step])) ∧
    (∀ name kind parent,
      (name ∈ r.prototypeNames →
        (Setup.define name kind parent).on r = (.error (.misuse (.nameTaken name)), r)) ∧
      (name ∉ r.prototypeNames → ∀ q, parent = some q → r.get? q = none →
        (Setup.define name kind parent).on r = (.error (.misuse (.unknownParent q name)), r)) ∧
      (name ∉ r.prototypeNames → (∀ q, parent = some q → ∃ p, r.get? q = some p) →
        ∃ r', (Setup.define name kind parent).on r = (.ok r.nextId, r') ∧
          r.Appends r' name kind parent)) ∧
    ∀ id p, r.get? id = some p → ∀ (slot : SingleSlot) (c : slot.Content),
      (base.Filled config steps id slot →
        (Setup.change id (slot.edit c).call).on r = (.error (.misuse (slot.misuse p.name)), r)) ∧
      (¬base.Filled config steps id slot →
        (Setup.change id (slot.edit c).call).on r = (.ok (), r.set id (slot.fill c p))) := by
  intro r
  -- after any setup, the index has the names of the arena, and positions are in order
  have hindexed : r.Indexed := base.indexed_history config steps
  have hplaced : Ancestral r.outlines := base.ancestral_history config steps
  refine ⟨fun step => ?_, fun name kind parent => ⟨fun htaken => ?_, fun hfree q hq hunknown => ?_,
    fun hfree hparent => ?_⟩, fun id p hp slot c => ⟨fun hfilled => ?_, fun hempty => ?_⟩⟩
  · rw [Setup.on_call, Session.Base.history_append_cons]
    rfl
  · rw [← Registry.contains_iff hindexed] at htaken
    rw [Setup.on_define, Registry.define_taken kind htaken]
  · rw [← Registry.contains_iff hindexed] at hfree
    subst hq
    rw [Setup.on_define, Registry.define_unknown kind hfree hunknown]
  · rw [← Registry.contains_iff hindexed] at hfree
    refine ⟨_, ?_, Registry.appends_push kind hplaced hparent⟩
    rw [Setup.on_define, Registry.define_free kind hfree hparent]
  · -- a slot is filled by the steps exactly if the prototype has something in it
    obtain ⟨p', hp', hset⟩ := hfilled.content?
    rw [Option.some.inj (hp'.symm.trans hp)] at hset
    rw [slot.on_change hp, if_pos hset]
  · have hset : ¬(slot.content? p).isSome := fun hset =>
      hempty (Session.Base.filled_of_content? hp hset)
    rw [slot.on_change hp, if_neg hset]

/-! ## More prototypes than handles -/

namespace Registry

/-- A name of so many letters. -/
def longName (n : Nat) : String :=
  String.ofList (List.replicate n 'x')

/-- Definitions of prototypes that have nothing but names of their own. -/
def crowd (n : Nat) : List Step :=
  (List.range n).map fun i => .define (longName i) (.custom "Crowd") none

theorem longName_inj {m n : Nat} : longName m = longName n ↔ m = n := by
  rw [longName, longName, String.ofList_inj, List.replicate_inj]
  simp

/-- Names with other letters differ from the long ones. -/
theorem longName_ne {name : String} (h : name.toList.all (· == 'x') = false) (n : Nat) :
    longName n ≠ name := by
  rintro rfl
  rw [longName, String.toList_ofList, List.all_eq_false] at h
  obtain ⟨c, hc, hother⟩ := h
  exact hother (beq_iff_eq.2 (List.eq_of_mem_replicate hc))

theorem longName_not_mem_wellKnown (n : Nat) :
    longName n ∉ Builtin.fixedNames ++ [Config.standard.hostObjectName] := by
  intro hmem
  have hother : ∀ name ∈ Builtin.fixedNames ++ [Config.standard.hostObjectName],
      name.toList.all (· == 'x') = false := by decide
  exact longName_ne (hother _ hmem) n rfl

/-- The definitions are accepted one after the other. -/
theorem prototypeNames_crowd (n : Nat) :
    (Session.Base.bare.history .standard (crowd n)).prototypeNames =
      (Builtin.fixedNames ++ [Config.standard.hostObjectName]) ++ (List.range n).map longName := by
  induction n with
  | zero => exact (Session.Base.bare.prototypeNames_registry .standard).trans (by simp)
  | succ n ih =>
    have hfree : longName n ∉ (Session.Base.bare.history .standard (crowd n)).prototypeNames := by
      rw [ih, List.mem_append, not_or, List.mem_map]
      refine ⟨longName_not_mem_wellKnown n, ?_⟩
      rintro ⟨m, hm, hname⟩
      rw [longName_inj] at hname
      exact absurd (List.mem_range.1 hm) (by omega)
    rw [← contains_iff (Session.Base.bare.indexed_history .standard (crowd n))] at hfree
    rw [crowd, List.range_succ, List.map_append, ← crowd, List.map_singleton,
      Session.Base.history_append_cons, performAll, List.foldl_nil, perform,
      define_root (.custom "Crowd") hfree, prototypeNames_push, ih, List.map_append,
      List.map_singleton, List.append_assoc]

theorem size_crowd (n : Nat) :
    (Session.Base.bare.history .standard (crowd n)).prototypes.size = n + 7 := by
  have hlength := congrArg List.length (prototypeNames_crowd n)
  simpa [prototypeNames, Builtin.fixedNames] using hlength

/-- Where all handles are given out, one more definition is accepted. It is given the handle of the
root, to which its name leads from then on. -/
theorem define_crowded {n : Nat} (hn : n + 7 = ProtoId.count) :
    let r := Session.Base.bare.history .standard (crowd n)
    r.prototypes.size = ProtoId.count ∧
      ∃ r', (Setup.define "Late" (.custom "Late") none).on r = (.ok ⟨0⟩, r') ∧
        (⟨0⟩ : ProtoId).index ≠ r.prototypes.size ∧
        (r'.find? "Late").bind r'.get? = r.get? ⟨0⟩ ∧
        (r.get? ⟨0⟩).map (·.name) = some "Object" := by
  intro r
  have hsize : r.prototypes.size = ProtoId.count := (size_crowd n).trans hn
  have hnext : r.nextId = ⟨0⟩ := by
    rw [nextId, hsize]
    rfl
  have hfree : "Late" ∉ r.prototypeNames := by
    rw [prototypeNames_crowd, List.mem_append, not_or, List.mem_map]
    refine ⟨by decide, ?_⟩
    rintro ⟨m, -, hname⟩
    exact longName_ne (by decide) m hname
  have hroot : r.prototypeNames[0]? = some "Object" := by
    rw [prototypeNames_crowd]
    rfl
  rw [getElem?_prototypeNames] at hroot
  rw [← contains_iff (Session.Base.bare.indexed_history .standard _)] at hfree
  have hzero : (⟨0⟩ : ProtoId).index ≠ r.prototypes.size := by
    rw [hsize]
    decide
  have hbound : (r.push "Late" (.custom "Late") none).find? "Late" = some ⟨0⟩ :=
    hnext ▸ r.names.find?_insert_self "Late" _
  refine ⟨hsize, r.push "Late" (.custom "Late") none, ?_, hzero, ?_, hroot⟩
  · rw [Setup.on_define, define_root (.custom "Late") hfree, hnext]
  · rw [hbound, Option.bind_some, get?_push, if_neg hzero]

end Registry

/-- A setup that gives out all handles: the next definition gets one that leads elsewhere. -/
theorem handles_run_out :
    let r := Session.Base.bare.history .standard (Registry.crowd (ProtoId.count - 7))
    r.prototypes.size = ProtoId.count ∧
      ∃ r', (Setup.define "Late" (.custom "Late") none).on r = (.ok ⟨0⟩, r') ∧
        (⟨0⟩ : ProtoId).index ≠ r.prototypes.size ∧
        (r'.find? "Late").bind r'.get? = r.get? ⟨0⟩ ∧
        (r.get? ⟨0⟩).map (·.name) = some "Object" :=
  Registry.define_crowded (Nat.sub_add_cancel (by decide))

end ScriptRealm
