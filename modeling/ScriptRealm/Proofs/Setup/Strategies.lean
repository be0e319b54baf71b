import ScriptRealm.Proofs.Dispatch.Handles
import ScriptRealm.Proofs.Setup.Keys

/-!
# Coercions follow the history of a setup

A prototype takes over the coercions that its parent has when it is defined, and from then on only
its own settings change them. So the coercion that a prototype ends up with can be read off the
steps of the setup: it is the last one that was set on it, and where none was, the one that the same
reading gives its parent for the steps before the definition. Prototypes are told apart by their
positions, which also those have that no handle leads to.
-/

namespace ScriptRealm

/-! ## Settings -/

/-- The coercion of a kind that an edit sets. -/
def Prototype.Edit.strategy? : Prototype.Edit → (kind : ScalarKind) → Option (Coercion kind.Result)
  | .setAsString f, .text => some f
  | .setAsNumber f, .number => some f
  | .setAsBoolean f, .truth => some f
  | _, _ => none

/-- The coercion of a kind that a step sets on the prototype at a position. -/
def Registry.Step.strategy? (step : Registry.Step) (i : Nat) (kind : ScalarKind) :
    Option (Coercion kind.Result) :=
  match step with
  | .edit target e => if target.index = i then e.strategy? kind else none
  | _ => none

namespace Prototype

variable (kind : ScalarKind)

theorem strategy_after (p : Prototype) (e : Edit) :
    (p.after e).strategy kind = (e.strategy? kind).getD (p.strategy kind) := by
  cases e with
  | setConstructor a =>
    rw [after_setConstructor]
    cases kind <;> rfl
  | setCapability c =>
    rw [after_setCapability]
    cases kind <;> rfl
  | setView view supplier => cases view <;> cases kind <;> rfl
  | _ => cases kind <;> rfl

theorem strategy_cacheKeys (p : Prototype) : p.cacheKeys.strategy kind = p.strategy kind := by
  cases kind <;> rfl

/-- A new prototype has the coercions of its parent as they are. -/
theorem strategy_make (id : ProtoId) (name : String) (protoKind : ProtoKind)
    (parent : Option Prototype) :
    (make id name protoKind parent).strategy kind =
      (parent.map (·.strategy kind)).getD kind.generic := by
  cases parent <;> cases kind <;> rfl

theorem strategy_install (p : Prototype) (m : Members) :
    (p.install m).strategy kind = p.strategy kind := by
  cases kind <;> rfl

end Prototype

/-- The well-known prototypes begin with the generic coercions. -/
theorem Session.Base.strategy_registry (base : Session.Base) (config : Config) (kind : ScalarKind) :
    ∀ p ∈ (base.registry config).prototypes, p.strategy kind = kind.generic := by
  refine base.forall_registry config (fun role => ?_) fun p m hp => ?_
  · cases kind <;> rfl
  · rw [p.strategy_install, hp]

/-! ## Steps -/

namespace Registry

variable {r : Registry} {i : Nat} {p : Prototype} (kind : ScalarKind)

/-- A step changes the coercion of a prototype only by setting it. -/
theorem strategy_onPrototype (step : Step) (i : Nat) (p : Prototype) :
    (step.onPrototype i p).strategy kind = (step.strategy? i kind).getD (p.strategy kind) := by
  cases step with
  | define name protoKind parent => rfl
  | edit target e =>
    rw [Step.onPrototype, Step.strategy?]
    split
    · rw [Prototype.strategy_after]
    · rw [Option.getD_none]
  | ownKeys target =>
    rw [Step.onPrototype]
    split
    · exact p.strategy_cacheKeys kind
    · rfl

/-- What is done to other prototypes, and to other coercions, changes nothing. -/
theorem strategy_performAll (hp : r.prototypes[i]? = some p) {steps : List Step}
    (hsteps : ∀ step ∈ steps, step.strategy? i kind = none) :
    ∃ p', (r.performAll steps).prototypes[i]? = some p' ∧ p'.strategy kind = p.strategy kind := by
  have hkept : ∀ step ∈ steps, ∀ q : Prototype, q.strategy kind = p.strategy kind →
      (step.onPrototype i q).strategy kind = p.strategy kind := by
    intro step hstep q hq
    rw [strategy_onPrototype, hsteps step hstep, Option.getD_none, hq]
  exact exists_performAll hkept hp rfl

end Registry

/-! ## Reading the history -/

/-- A setup gives the prototype at a position a coercion of a kind. -/
inductive Session.Base.Gives (base : Session.Base) (config : Config) (kind : ScalarKind) :
    List Registry.Step → Nat → Coercion kind.Result → Prop
  /-- it was set on the prototype, which was there, and not set again -/
  | set {before after : List Registry.Step} {step : Registry.Step} {i : Nat}
      {f : Coercion kind.Result} (known : i < (base.history config before).prototypes.size)
      (sets : step.strategy? i kind = some f)
      (last : ∀ later ∈ after, later.strategy? i kind = none) :
      Gives base config kind (before ++ step :: after) i f
  /-- the prototype was there from the beginning -/
  | wellKnown {steps : List Registry.Step} {i : Nat}
      (known : i < (base.registry config).prototypes.size)
      (last : ∀ later ∈ steps, later.strategy? i kind = none) :
      Gives base config kind steps i kind.generic
  /-- the prototype was defined without a parent -/
  | root {before after : List Registry.Step} {name : String} {protoKind : ProtoKind} {id : ProtoId}
      {r : Registry} {i : Nat}
      (defined : (base.history config before).define name protoKind none = .ok (id, r))
      (here : i = (base.history config before).prototypes.size)
      (last : ∀ later ∈ after, later.strategy? i kind = none) :
      Gives base config kind (before ++ .define name protoKind none :: after) i kind.generic
  /-- the prototype was defined with a parent, which had the coercion at that moment -/
  | child {before after : List Registry.Step} {name : String} {protoKind : ProtoKind}
      {parent id : ProtoId} {r : Registry} {i : Nat} {f : Coercion kind.Result}
      (defined : (base.history config before).define name protoKind (some parent) = .ok (id, r))
      (here : i = (base.history config before).prototypes.size)
      (inherited : Gives base config kind before parent.index f)
      (last : ∀ later ∈ after, later.strategy? i kind = none) :
      Gives base config kind (before ++ .define name protoKind (some parent) :: after) i f

namespace Session.Base

variable {base : Session.Base} {config : Config} {kind : ScalarKind} {steps : List Registry.Step}
  {i : Nat} {f : Coercion kind.Result}

/-- What the history gives is what the prototype has. -/
theorem Gives.strategy_eq (h : base.Gives config kind steps i f) :
    ∃ p, (base.history config steps).prototypes[i]? = some p ∧ p.strategy kind = f := by
  induction h with
  | @set before after step i f known sets last =>
    have hset := Registry.getElem?_perform (Array.getElem?_eq_getElem known) step
    obtain ⟨p', hp', hkept⟩ := Registry.strategy_performAll kind hset last
    rw [history_append_cons]
    refine ⟨p', hp', ?_⟩
    rw [hkept, Registry.strategy_onPrototype, sets, Option.getD_some]
  | wellKnown known last =>
    have hp := Array.getElem?_eq_getElem known
    obtain ⟨p', hp', hkept⟩ := Registry.strategy_performAll kind hp last
    exact ⟨p', hp', hkept.trans (base.strategy_registry config kind _ (Array.mem_of_getElem? hp))⟩
  | root defined here last =>
    subst here
    have hnew := Registry.getElem?_of_define defined
    obtain ⟨p', hp', hkept⟩ := Registry.strategy_performAll kind hnew last
    rw [history_append_cons]
    refine ⟨p', hp', ?_⟩
    rw [hkept, Prototype.strategy_make]
    rfl
  | @child before _ _ _ parent _ _ _ _ defined here _ last ih =>
    subst here
    obtain ⟨q, hq, hparent⟩ := ih
    have hget : (base.history config before).get? parent = some q := hq
    have hnew := Registry.getElem?_of_define defined
    obtain ⟨p', hp', hkept⟩ := Registry.strategy_performAll kind hnew last
    rw [history_append_cons]
    refine ⟨p', hp', ?_⟩
    rw [hkept, Prototype.strategy_make, Option.bind_some, hget, Option.map_some, Option.getD_some,
      hparent]

/-- A step that does not set the coercion leaves what the history gave. -/
theorem Gives.concat (h : base.Gives config kind steps i f) {step : Registry.Step}
    (hstep : step.strategy? i kind = none) : base.Gives config kind (steps ++ [step]) i f := by
  have hlast : ∀ {after : List Registry.Step}, (∀ later ∈ after, later.strategy? i kind = none) →
      ∀ later ∈ after ++ [step], later.strategy? i kind = none := by
    intro after hafter later hlater
    rcases List.mem_append.1 hlater with hlater | hlater
    · exact hafter later hlater
    · rw [List.mem_singleton.1 hlater]
      exact hstep
  cases h with
  | set known sets last =>
    rw [List.append_assoc]
    exact .set known sets (hlast last)
  | wellKnown known last => exact .wellKnown known (hlast last)
  | root defined here last =>
    rw [List.append_assoc]
    exact .root defined here (hlast last)
  | child defined here inherited last =>
    rw [List.append_assoc]
    exact .child defined here inherited (hlast last)

/-- The history gives a coercion to every prototype. -/
theorem exists_gives {p : Prototype} (hp : (base.history config steps).prototypes[i]? = some p) :
    ∃ f, base.Gives config kind steps i f := by
  induction steps using List.reverseRecOn generalizing i p with
  | nil =>
    have hlt := (Array.getElem?_eq_some_iff.1 hp).1
    exact ⟨_, .wellKnown hlt (by simp)⟩
  | append_singleton before step ih =>
    rw [history_append_cons] at hp
    cases hbefore : (base.history config before).prototypes[i]? with
    | some p₀ =>
      have hlt := (Array.getElem?_eq_some_iff.1 hbefore).1
      rcases hset : step.strategy? i kind with _ | f
      · obtain ⟨f, hf⟩ := ih hbefore
        exact ⟨f, hf.concat hset⟩
      · exact ⟨f, .set hlt hset (by simp)⟩
    | none =>
      -- the prototype is new, so the step is its definition, and the parent was there before
      obtain ⟨name, protoKind, parent, r, rfl, hdefine, hend⟩ := Registry.define_of_new hbefore hp
      cases parent with
      | none => exact ⟨_, .root hdefine hend (by simp)⟩
      | some parent =>
        obtain ⟨q, hq⟩ := Registry.exists_parent_of_define hdefine
        obtain ⟨f, hf⟩ := ih hq
        exact ⟨f, .child hdefine hend hf (by simp)⟩

theorem gives_iff : base.Gives config kind steps i f ↔
    (base.history config steps).prototypes[i]?.map (·.strategy kind) = some f := by
  constructor
  · intro h
    obtain ⟨p, hp, hf⟩ := h.strategy_eq
    rw [hp, Option.map_some, hf]
  · intro h
    obtain ⟨p, hp, rfl⟩ := Option.map_eq_some_iff.1 h
    obtain ⟨f, hf⟩ : ∃ f, base.Gives config kind steps i f := exists_gives hp
    obtain ⟨p', hp', rfl⟩ := hf.strategy_eq
    rw [hp] at hp'
    cases hp'
    exact hf

end Session.Base

/-- After any setup, a prototype has of each kind the coercion that the history gives it: the last
one set on it, or else the one that its parent had when it was defined, or else the generic one.
Whatever is done afterwards to other prototypes, its parent and its children among them, does not
change it. Each value is turned into a scalar by the coercion of the prototype that it is classified
to. -/
theorem coercions_follow_history (base : Session.Base) (config settings : Config)
    (steps : List Registry.Step) (kind : ScalarKind) (host : Host) (converter : Converter) :
    let r := base.history config steps
    let ctx := r.context host converter settings
    (∀ (i : Nat) f, base.Gives config kind steps i f ↔
      r.prototypes[i]?.map (·.strategy kind) = some f) ∧
    (∀ (i : Nat) p later, r.prototypes[i]? = some p →
      (∀ step ∈ later, step.strategy? i kind = none) →
      ∃ p', (base.history config (steps ++ later)).prototypes[i]? = some p' ∧
        p'.strategy kind = p.strategy kind) ∧
    ∀ v, ∃ f, base.Gives config kind steps (ctx.classify v).index f ∧
      ∀ answer m, (ctx.scalar kind v).run answer m = .returned (f m.store v) m := by
  intro r ctx
  refine ⟨fun i f => Session.Base.gives_iff, fun i p later hp hlater => ?_, fun v => ?_⟩
  · rw [Session.Base.history, Registry.performAll_append]
    exact Registry.strategy_performAll kind hp hlater
  · have hroles : ctx.realm.HasRoles := base.hasRoles_history config steps
    obtain ⟨p, hp⟩ := Realm.exists_get? (Context.classify_lt hroles v)
    have hget : r.prototypes[(ctx.classify v).index]? = some p := hp
    refine ⟨p.strategy kind, Session.Base.gives_iff.2 (by rw [hget, Option.map_some]), ?_⟩
    intro answer m
    rw [ctx.scalar_of_known hp]
    rfl

end ScriptRealm
