import ScriptRealm.Proofs.Setup.Naming

/-!
# Handles that lead to a prototype, and handles that do not

Classification gives a handle of the realm for every value, whatever prototypes the host objects
declare, because every setup keeps the well-known prototypes. So the entry points of a context may
index the prototypes without a check. A handle that the realm does not know is no error: nobody is
asked through it but the receiver itself.
-/

namespace ScriptRealm

/-! ## The three coercions -/

/-- The scalars that values are turned into. -/
inductive ScalarKind where
  | text
  | number
  | truth
deriving DecidableEq, Repr

/-- What a coercion of a kind gives. -/
def ScalarKind.Result : ScalarKind → Type
  | .text => String
  | .number => Number
  | .truth => Bool

/-- The coercion that holds where no prototype sets its own. -/
def ScalarKind.generic : (kind : ScalarKind) → Coercion kind.Result
  | .text => Store.display
  | .number => Store.number
  | .truth => fun _ v => v.truth

/-- The coercion of a kind that a prototype has. -/
def Prototype.strategy (p : Prototype) : (kind : ScalarKind) → Coercion kind.Result
  | .text => p.asString
  | .number => p.asNumber
  | .truth => p.asBoolean

/-! ## Entry points -/

/-- An operation that begins at the prototype of its receiver. -/
inductive EntryPoint where
  | member (q : Request)
  | view (view : View) (this : Value)
  | scalar (kind : ScalarKind) (this : Value)

def EntryPoint.Answer : EntryPoint → Type
  | .member q => q.Answer
  | .view .. => ListRef
  | .scalar kind _ => kind.Result

namespace Context

variable (ctx : Context)

/-- Turns a value into a scalar. -/
def scalar : (kind : ScalarKind) → Value → Program kind.Result
  | .text, this => ctx.displayText this
  | .number, this => ctx.numberOf this
  | .truth, this => ctx.truthOf this

/-- Serves an operation. -/
def enter : (e : EntryPoint) → Program e.Answer
  | .member (.read this key cast) => ctx.read this key cast
  | .member (.write this key value cast) => ctx.write this key value cast
  | .member (.invoke this key args cast) => ctx.invoke this key args cast
  | .member (.delete this key) => ctx.delete this key
  | .view view this => ctx.view view this
  | .scalar kind this => ctx.scalar kind this

/-- An operation on a value is a dispatch from the prototype that serves it. -/
theorem enter_member (q : Request) :
    ctx.enter (.member q) = ctx.dispatch (ctx.classify q.this) q := by
  cases q <;> rfl

/-- A coercion is the one of the prototype, if that is known. -/
theorem scalar_of_known {v : Value} {p : Prototype}
    (hp : ctx.realm.get? (ctx.classify v) = some p) (kind : ScalarKind) :
    ctx.scalar kind v = do return p.strategy kind (← Program.getStore) v := by
  cases kind <;> simp only [scalar, displayText, numberOf, truthOf, coerce, hp] <;> rfl

end Context

/-! ## Indexing without a check -/

/-- The prototype of a handle, for whoever does not ask first whether there is one. A handle that
leads nowhere is a fault. -/
def Realm.fetch (r : Realm) (id : ProtoId) : Except ProtoId Prototype :=
  match r.get? id with
  | some p => .ok p
  | none => .error id

namespace Context

variable (ctx : Context)

/-- The prototype that an object of the host declares, known to the realm or not. -/
def declaration? (o : ObjectRef) : Option ProtoId :=
  (ctx.host.objects[o.index]?.bind (·.declared)).bind ctx.realm.resolve?

/-- Classification as it goes step by step. A declaration that the realm does not know is reported,
for which the prototype that stands in for it is fetched. -/
def classifyFetching : Value → Except ProtoId ProtoId
  | .object o =>
    match ctx.declaration? o with
    | none => return ctx.realm.wellKnown.hostObject
    | some id =>
      if (ctx.realm.get? id).isSome then return id
      else do
        let _ ← ctx.realm.fetch ctx.realm.wellKnown.hostObject
        return ctx.realm.wellKnown.hostObject
  | v => return ctx.realm.wellKnown.of (Realm.roleOf v)

/-- Serves an operation, fetching the prototype of the receiver where one is needed. -/
def enterFetching : (e : EntryPoint) → Except ProtoId (Program e.Answer)
  | .member q => do return ctx.dispatch (← ctx.classifyFetching q.this) q
  | .view view this => do return ctx.viewThrough (← ctx.classifyFetching this) view this
  | .scalar kind this => do
    let p ← ctx.realm.fetch (← ctx.classifyFetching this)
    return do return p.strategy kind (← Program.getStore) this

end Context

namespace Realm

/-- The well-known handles lead to prototypes of the realm. -/
def HasRoles (r : Realm) : Prop :=
  ∀ role, (r.wellKnown.of role).index < r.size

variable {r : Realm}

theorem exists_get? {id : ProtoId} (h : id.index < r.size) : ∃ p, r.get? id = some p := by
  cases hget : r.get? id with
  | some p => exact ⟨p, rfl⟩
  | none =>
    have hout := get?_eq_none_iff.1 hget
    omega

theorem lt_of_get? {id : ProtoId} {p : Prototype} (h : r.get? id = some p) : id.index < r.size :=
  (Array.getElem?_eq_some_iff.1 h).1

theorem fetch_of_get? {id : ProtoId} {p : Prototype} (h : r.get? id = some p) :
    r.fetch id = .ok p := by
  rw [fetch, h]

end Realm

namespace Context

variable {ctx : Context}

/-- A declaration counts if it leads to a prototype. -/
theorem declared?_eq (o : ObjectRef) :
    ctx.declared? o = (ctx.declaration? o).filter fun id => (ctx.realm.get? id).isSome := by
  have hknown : ∀ id, (ctx.realm.get? id).isSome = decide (id.index < ctx.realm.size) := by
    intro id
    rw [Bool.eq_iff_iff, decide_eq_true_iff]
    constructor
    · intro h
      obtain ⟨p, hp⟩ := Option.isSome_iff_exists.1 h
      exact Realm.lt_of_get? hp
    · intro h
      obtain ⟨p, hp⟩ := Realm.exists_get? h
      rw [hp]
      rfl
  unfold declared? declaration?
  rcases ctx.host.objects[o.index]? with _ | object
  · rfl
  · rcases hdeclared : object.declared with _ | ref
    · simp [hdeclared]
    · rcases hresolve : ctx.realm.resolve? ref with _ | id
      · simp [hdeclared, hresolve]
      · by_cases hlt : id.index < ctx.realm.size <;>
          simp [hdeclared, hresolve, Option.filter, hknown, hlt]

/-- Classification never leads out of the realm. -/
theorem classify_lt (h : ctx.realm.HasRoles) (v : Value) :
    (ctx.classify v).index < ctx.realm.size := by
  cases v with
  | object o =>
    rcases hdeclared : ctx.declared? o with _ | id
    · simp only [classify, hdeclared, Option.getD_none]
      exact h .hostObject
    · simp only [classify, hdeclared, Option.getD_some]
      rw [declared?_eq, Option.filter_eq_some_iff] at hdeclared
      obtain ⟨p, hp⟩ := Option.isSome_iff_exists.1 hdeclared.2
      exact Realm.lt_of_get? hp
  | _ => exact h _

/-- The report of an unknown declaration meets the prototype that it names. -/
theorem classifyFetching_eq (h : ctx.realm.HasRoles) (v : Value) :
    ctx.classifyFetching v = .ok (ctx.classify v) := by
  cases v with
  | object o =>
    obtain ⟨p, hp⟩ := Realm.exists_get? (h .hostObject)
    have hfetch : ctx.realm.fetch ctx.realm.wellKnown.hostObject = .ok p := Realm.fetch_of_get? hp
    simp only [classifyFetching, classify, declared?_eq]
    rcases ctx.declaration? o with _ | id
    · rfl
    · cases hknown : (ctx.realm.get? id).isSome with
      | true => simp [hknown, Option.filter]; rfl
      | false =>
        -- the report fetches the prototype that stands in, and that one is there
        simp only [Option.filter, hknown, Bool.false_eq_true, if_false, hfetch]
        rfl
  | _ => rfl

/-- Indexing with the classified handle never faults, at any entry point. -/
theorem enterFetching_eq (h : ctx.realm.HasRoles) (e : EntryPoint) :
    ctx.enterFetching e = .ok (ctx.enter e) := by
  cases e with
  | member q =>
    rw [enter_member, enterFetching, classifyFetching_eq h]
    rfl
  | view view this =>
    rw [enterFetching, classifyFetching_eq h]
    rfl
  | scalar kind this =>
    obtain ⟨p, hp⟩ := Realm.exists_get? (classify_lt h this)
    have hscalar : ctx.enter (.scalar kind this) = ctx.scalar kind this := rfl
    have hfetch : (do let id ← ctx.classifyFetching this; ctx.realm.fetch id) = .ok p := by
      rw [classifyFetching_eq h]
      exact Realm.fetch_of_get? hp
    rw [hscalar, ctx.scalar_of_known hp, enterFetching, ← bind_assoc, hfetch]
    rfl

end Context

/-! ## Well-known prototypes after a setup -/

namespace Registry

theorem wellKnown_core (hostObjectName : String) :
    (core hostObjectName).wellKnown = (bare hostObjectName).wellKnown := by
  simp only [core, Builtin.roles, List.foldl, Builtin.install]

/-- No step of a setup moves the well-known handles. -/
theorem wellKnown_perform (r : Registry) (step : Step) :
    (r.perform step).wellKnown = r.wellKnown := by
  cases step with
  | define name kind parent =>
    rcases r.perform_define name kind parent with hstep | hstep
    · rw [hstep]
    · rw [hstep]
      rfl
  | edit id e =>
    rw [perform_edit]
    rfl
  | ownKeys id =>
    rw [perform_ownKeys]
    rfl

theorem wellKnown_performAll (r : Registry) (steps : List Step) :
    (r.performAll steps).wellKnown = r.wellKnown := by
  induction steps generalizing r with
  | nil => rfl
  | cons step rest ih => exact (ih (r.perform step)).trans (r.wellKnown_perform step)

end Registry

namespace Session.Base

variable (base : Session.Base) (config : Config) (steps : List Registry.Step)

theorem wellKnown_history (role : Role) :
    (base.history config steps).wellKnown.of role = Builtin.roleId role := by
  rw [history, Registry.wellKnown_performAll]
  unfold registry
  cases base with
  | core =>
    simp only [Registry.wellKnown_core]
    exact Builtin.wellKnown_bare config.hostObjectName role
  | _ => exact Builtin.wellKnown_bare config.hostObjectName role

/-- No setup removes a prototype. -/
theorem size_registry_le : 7 ≤ (base.history config steps).prototypes.size := by
  have hprefix := Registry.outlines_prefix_performAll (base.registry config) steps
  have hlength := hprefix.length_le
  have hbare : (base.registry config).prototypes.size = 7 := by
    rw [← Registry.length_outlines, outlines_registry, Registry.length_outlines,
      Builtin.prototypes_bare]
    rfl
  rw [Registry.length_outlines, Registry.length_outlines, hbare] at hlength
  exact hlength

/-- After any setup, all well-known handles lead to prototypes. -/
theorem hasRoles_history : (base.history config steps).freeze.HasRoles := by
  intro role
  have hsize : 7 ≤ (base.history config steps).freeze.size := size_registry_le base config steps
  have hid : (base.history config steps).freeze.wellKnown.of role = Builtin.roleId role :=
    wellKnown_history base config steps role
  have hseven : (Builtin.roleId role).index < 7 := by cases role <;> decide
  rw [hid]
  omega

end Session.Base

/-! ## Handles that lead nowhere -/

namespace Context

variable (ctx : Context) {id : ProtoId} (h : ctx.realm.get? id = none)
include h

/-- An unknown handle has no chain, and so only the own members of a receiver are asked. -/
theorem chain_of_unknown : ctx.realm.chain id = [] :=
  Realm.chainUpTo_unknown h _

theorem candidates_of_unknown (q : Request) :
    ctx.candidates id q = (ctx.ownMembers? q.this).toList.map .own := by
  rw [candidates, chain_of_unknown ctx h, List.flatMap_nil, List.append_nil]

/-- Only the receiver is asked. -/
theorem dispatch_of_unknown (q : Request) :
    ctx.dispatch id q =
      q.orElse (((ctx.ownMembers? q.this).getD .passive).serve q) fun _ => do
        ctx.traceMiss q.operation id q.key
        return q.miss := by
  rw [dispatch_eq_askAll, candidates_of_unknown ctx h, q.askAll_capability _ _ fun _ => rfl]

/-- It constructs nothing, shows nothing and has no keys. -/
theorem construct_of_unknown (args : List Value) (cast : Cast) :
    ctx.construct id args cast = pure .missing := by
  rw [construct, h]
  rfl

theorem viewThrough_of_unknown (view : View) (this : Value) :
    ctx.viewThrough id view this = Program.newList [] := by
  rw [viewThrough, h]

end Context

namespace Realm

variable {r : Realm} {id : ProtoId} (h : r.get? id = none)
include h

theorem ownKeys_of_unknown : r.ownKeys id = [] := by
  rw [ownKeys, h]
  rfl

theorem allKeys_of_unknown : r.allKeys id = [] := by
  rw [allKeys, chain, chainUpTo_unknown h]
  rfl

end Realm

/-- In the realm of any setup, whatever the host's objects declare: every value is classified to a
prototype of the realm, and no entry point fetches one that is not there. Through a handle that the
realm does not know, an operation on members asks the receiver's own members and nobody else,
constructions miss, and chains, keys and views are empty. -/
theorem classified_known_unknown_inert (base : Session.Base) (config settings : Config)
    (steps : List Registry.Step) (host : Host) (converter : Converter) :
    let ctx := (base.history config steps).context host converter settings
    (∀ v, ctx.classifyFetching v = .ok (ctx.classify v) ∧
      ∃ p, ctx.realm.get? (ctx.classify v) = some p ∧ p.id = ctx.classify v) ∧
    (∀ e, ctx.enterFetching e = .ok (ctx.enter e)) ∧
    ∀ id, ctx.realm.get? id = none →
      (∀ q, ctx.dispatch id q =
        q.orElse (((ctx.ownMembers? q.this).getD .passive).serve q) fun _ => do
          ctx.traceMiss q.operation id q.key
          return q.miss) ∧
      (∀ args cast, ctx.construct id args cast = pure .missing) ∧
      ctx.realm.chain id = [] ∧ ctx.realm.ownKeys id = [] ∧ ctx.realm.allKeys id = [] ∧
      ∀ view this, ctx.viewThrough id view this = Program.newList [] := by
  intro ctx
  have hroles : ctx.realm.HasRoles := base.hasRoles_history config steps
  have hordered : ctx.realm.Ordered :=
    Registry.ordered_freeze (base.ancestral_history config steps)
  refine ⟨fun v => ⟨Context.classifyFetching_eq hroles v, ?_⟩, Context.enterFetching_eq hroles,
    fun id hid => ?_⟩
  · obtain ⟨p, hp⟩ := Realm.exists_get? (Context.classify_lt hroles v)
    exact ⟨p, hp, (hordered _ p hp).1⟩
  · exact ⟨ctx.dispatch_of_unknown hid, ctx.construct_of_unknown hid, ctx.chain_of_unknown hid,
      Realm.ownKeys_of_unknown hid, Realm.allKeys_of_unknown hid, ctx.viewThrough_of_unknown hid⟩

end ScriptRealm
