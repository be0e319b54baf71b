import ScriptRealm.Proofs.Dispatch.Builtins
import ScriptRealm.Proofs.Setup.Registration

/-!
# Registration is local

A member that is registered under a name of a prototype is seen by reads and calls of that name that
pass the prototype on their way up, and by nothing else. Two realms that differ in the registration
have the same chains but for the tables of that one prototype, so everybody else has the same
candidates to ask; and where no callback dispatches in turn, asking the same candidates is doing the
same.
-/

namespace ScriptRealm

/-! ## Keys -/

namespace KeySet

/-- Some keys, and perhaps one name besides. -/
def Gains (name : String) (keys keys' : List String) : Prop :=
  ∀ k, (k ∈ keys → k ∈ keys') ∧ (k ∈ keys' → k = name ∨ k ∈ keys)

variable {name : String} {keys keys' : List String}

/-- If two lists of keys gain a name at most, so does the one after the other. -/
theorem Gains.append (h : Gains name keys keys') {more more' : List String}
    (hmore : Gains name more more') : Gains name (keys ++ more) (keys' ++ more') := by
  intro k
  have hk := h k
  have hkmore := hmore k
  simp only [List.mem_append]
  tauto

/-- Put in order, the keys are the same, or the same with the name inserted. -/
theorem Gains.ofList_eq (h : Gains name keys keys') :
    ofList keys' = ofList keys ∨ ofList keys' = insert name (ofList keys) := by
  have hkeys := ascending_ofList keys
  have hkeys' := ascending_ofList keys'
  by_cases hname : name ∈ keys'
  · refine .inr (hkeys'.ext (ascending_insert hkeys name) fun k => ?_)
    rw [mem_insert, mem_ofList, mem_ofList]
    refine ⟨(h k).2, ?_⟩
    rintro (rfl | hk)
    · exact hname
    · exact (h k).1 hk
  · refine .inl (hkeys'.ext hkeys fun k => ?_)
    rw [mem_ofList, mem_ofList]
    refine ⟨fun hk => ((h k).2 hk).resolve_left ?_, (h k).1⟩
    rintro rfl
    exact hname hk

end KeySet

/-- Tables that differ at one name have keys that differ by it at most. -/
theorem Assoc.SameBut.gains {α : Type} {name : String} {a b : Assoc α} (h : a.SameBut name b) :
    KeySet.Gains name a.keys b.keys := by
  intro k
  rw [Assoc.mem_keys_iff, Assoc.mem_keys_iff]
  by_cases hname : k = name
  · subst hname
    exact ⟨h.has_name, fun _ => .inl rfl⟩
  · rw [h.find?_eq k hname]
    exact ⟨id, .inr⟩

namespace Prototype.SameBut

variable {name : String} {p p' : Prototype} (h : p.SameBut name p')
include h

theorem gains : KeySet.Gains name (p.properties.keys ++ p.functions.keys)
    (p'.properties.keys ++ p'.functions.keys) :=
  (h.table .properties).gains.append (h.table .functions).gains

/-- A table has gained no other key, whichever it is. -/
theorem gains_tableKeys : KeySet.Gains name p.tableKeys p'.tableKeys := by
  intro k
  unfold Prototype.tableKeys
  rw [KeySet.mem_ofList, KeySet.mem_ofList]
  exact h.gains k

end Prototype.SameBut

/-! ## Frozen registries -/

namespace Registry.SameBut

variable {id : ProtoId} {name : String} {r r' : Registry} (h : r.SameBut id name r')
include h

/-- The two realms have the same prototypes, but for members. -/
theorem outlines_eq : r'.outlines = r.outlines := by
  apply List.ext_getElem?
  intro i
  rw [getElem?_outlines, getElem?_outlines]
  rcases h.getElem?_cases i with ⟨hnone, hnone'⟩ | ⟨p, p', hp, hp', hsame⟩
  · rw [hnone, hnone']
  · rw [hp, hp', Option.map_some, Option.map_some, hsame.outline]

theorem find?_freeze_eq (given : String) : r'.freeze.find? given = r.freeze.find? given := by
  have hfind : ∀ r : Registry, r.freeze.find? given =
      (r.outlines.find? (·.name == given)).map (·.id) := by
    intro r
    unfold Registry.outlines
    rw [List.find?_map, Option.map_map, Array.find?_toList]
    rfl
  rw [hfind, hfind, h.outlines_eq]

theorem resolve?_freeze_eq (ref : ProtoRef) : r'.freeze.resolve? ref = r.freeze.resolve? ref := by
  rcases ref with given | q | word
  · exact h.find?_freeze_eq given
  · rfl
  · exact congrArg (fun w => (Role.ofWord? word).map (WellKnown.of w)) h.wellKnown

/-- Each handle leads nowhere in both realms, or to prototypes that differ at the name at most. -/
theorem get?_freeze_cases (q : ProtoId) :
    (r.freeze.get? q = none ∧ r'.freeze.get? q = none) ∨
    ∃ p p', r.freeze.get? q = some p ∧ r'.freeze.get? q = some p' ∧ p.SameBut name p' :=
  h.getElem?_cases q.index

/-- All prototypes but the one with the registration are the same. -/
theorem get?_freeze_of_ne {q : ProtoId} (hq : q ≠ id) : r'.freeze.get? q = r.freeze.get? q :=
  h.others q.index (mt ProtoId.ext_index hq)

theorem size_freeze : r'.freeze.size = r.freeze.size :=
  h.size

/-- What is read off a prototype without looking into its tables is the same. -/
theorem get?_freeze_map {α : Type} (f : Prototype → α) (hf : ∀ p, f p.withoutTables = f p)
    (q : ProtoId) : (r'.freeze.get? q).map f = (r.freeze.get? q).map f := by
  rcases h.get?_freeze_cases q with ⟨hnone, hnone'⟩ | ⟨p, p', hp, hp', hsame⟩
  · rw [hnone, hnone']
  · rw [hp, hp', Option.map_some, Option.map_some, hsame.congr f hf]

/-- What does not depend on tables is the same in both realms. -/
theorem get?_freeze_bind {α : Type} (f : Prototype → Option α) (hf : ∀ p, f p.withoutTables = f p)
    (q : ProtoId) : (r'.freeze.get? q).bind f = (r.freeze.get? q).bind f := by
  rcases h.get?_freeze_cases q with ⟨hnone, hnone'⟩ | ⟨p, p', hp, hp', hsame⟩
  · rw [hnone, hnone']
  · rw [hp, hp', Option.bind_some, Option.bind_some, hsame.congr f hf]

/-- The levels of a chain are the same prototypes but for the name. -/
theorem chain_freeze (q : ProtoId) :
    List.Forall₂ (Prototype.SameBut name) (r.freeze.chain q) (r'.freeze.chain q) := by
  have hchain : ∀ (fuel : Nat) (q : ProtoId), List.Forall₂ (Prototype.SameBut name)
      (r.freeze.chainUpTo fuel q) (r'.freeze.chainUpTo fuel q) := by
    intro fuel
    induction fuel with
    | zero => exact fun q => .nil
    | succ fuel ih =>
      intro q
      rcases h.get?_freeze_cases q with ⟨hnone, hnone'⟩ | ⟨p, p', hp, hp', hsame⟩
      · rw [Realm.chainUpTo_unknown hnone, Realm.chainUpTo_unknown hnone']
        exact .nil
      · have hparent : p'.parent = p.parent := congrArg (·.parent) hsame.outline
        rw [Realm.chainUpTo_succ hp, Realm.chainUpTo_succ hp', hparent]
        refine .cons hsame ?_
        rcases p.parent with _ | q
        · exact .nil
        · exact ih q
  unfold Realm.chain
  rw [h.size_freeze]
  exact hchain r.freeze.size q

/-- The chains go through the same handles. -/
theorem map_id_chain_freeze (q : ProtoId) :
    (r'.freeze.chain q).map Prototype.id = (r.freeze.chain q).map Prototype.id := by
  have hchain := h.chain_freeze q
  generalize r.freeze.chain q = levels, r'.freeze.chain q = levels' at hchain ⊢
  induction hchain with
  | nil => rfl
  | cons hsame _ ih =>
    rw [List.map_cons, List.map_cons, ih, hsame.congr Prototype.id fun _ => rfl]

/-- Chains that do not have the prototype are the same altogether. -/
theorem chain_freeze_eq (hordered : r.freeze.Ordered) {q : ProtoId}
    (hq : id ∉ (r.freeze.chain q).map Prototype.id) : r'.freeze.chain q = r.freeze.chain q := by
  have hchain : ∀ (fuel : Nat) (q : ProtoId),
      id ∉ (r.freeze.chainUpTo fuel q).map Prototype.id →
      r'.freeze.chainUpTo fuel q = r.freeze.chainUpTo fuel q := by
    intro fuel
    induction fuel with
    | zero => exact fun q _ => rfl
    | succ fuel ih =>
      intro q hq
      rcases h.get?_freeze_cases q with ⟨hnone, hnone'⟩ | ⟨p, p', hp, hp', -⟩
      · rw [Realm.chainUpTo_unknown hnone, Realm.chainUpTo_unknown hnone']
      · rw [Realm.chainUpTo_succ hp, List.map_cons, List.mem_cons, not_or] at hq
        obtain ⟨hfirst, hrest⟩ := hq
        -- the handle that leads to the first level is its own, so it is not the one that differs
        have hid : p.id = q := (hordered q p hp).1
        have hsame : r'.freeze.get? q = r.freeze.get? q :=
          h.get?_freeze_of_ne (hid ▸ Ne.symm hfirst)
        rw [Realm.chainUpTo_succ hp, Realm.chainUpTo_succ (hsame.trans hp)]
        congr 1
        rcases hparent : p.parent with _ | parent
        · rfl
        · rw [hparent] at hrest
          exact ih parent hrest
  unfold Realm.chain at hq ⊢
  rw [h.size_freeze]
  exact hchain r.freeze.size q hq

/-! ### Keys of frozen registries -/

section

variable (hown : ∀ p ∈ r.prototypes, p.ownKeys = p.tableKeys)
  (hown' : ∀ p ∈ r'.prototypes, p.ownKeys = p.tableKeys)
include hown hown'

/-- The keys of a prototype are the same, unless it is the one that was given the member. -/
theorem ownKeys_freeze (q : ProtoId) :
    r'.freeze.ownKeys q = r.freeze.ownKeys q ∨
    q = id ∧ r'.freeze.ownKeys q = KeySet.insert name (r.freeze.ownKeys q) := by
  unfold Realm.ownKeys
  by_cases hq : q = id
  · rcases h.get?_freeze_cases q with ⟨hnone, hnone'⟩ | ⟨p, p', hp, hp', hsame⟩
    · rw [hnone, hnone']
      exact .inl rfl
    · rw [hp, hp', Option.map_some, Option.map_some, Option.getD_some, Option.getD_some,
        hown p (Array.mem_of_getElem? hp), hown' p' (Array.mem_of_getElem? hp')]
      exact hsame.gains.ofList_eq.imp_right fun hinsert => ⟨hq, hinsert⟩
  · rw [h.get?_freeze_of_ne hq]
    exact .inl rfl

/-- Along a chain, too, there is at most the name besides. -/
theorem gains_chain (q : ProtoId) :
    KeySet.Gains name ((r.freeze.chain q).flatMap (·.ownKeys))
      ((r'.freeze.chain q).flatMap (·.ownKeys)) := by
  have hlevels : ∀ {levels levels' : List Prototype},
      List.Forall₂ (Prototype.SameBut name) levels levels' →
      (∀ p ∈ levels, p.ownKeys = p.tableKeys) → (∀ p ∈ levels', p.ownKeys = p.tableKeys) →
      KeySet.Gains name (levels.flatMap (·.ownKeys)) (levels'.flatMap (·.ownKeys)) := by
    intro levels levels' hsame
    induction hsame with
    | nil => exact fun _ _ k => ⟨fun hk => hk, .inr⟩
    | cons hfirst _ ih =>
      intro hkeys hkeys'
      rw [List.forall_mem_cons] at hkeys hkeys'
      rw [List.flatMap_cons, List.flatMap_cons, hkeys.1, hkeys'.1]
      exact hfirst.gains_tableKeys.append (ih hkeys.2 hkeys'.2)
  exact hlevels (h.chain_freeze q) (fun p hp => hown p (Realm.mem_of_mem_chain hp))
    fun p hp => hown' p (Realm.mem_of_mem_chain hp)

/-- The keys along a chain are the same, unless it leads through that prototype. -/
theorem allKeys_freeze (hordered : r.freeze.Ordered) (q : ProtoId) :
    r'.freeze.allKeys q = r.freeze.allKeys q ∨
    id ∈ (r.freeze.chain q).map Prototype.id ∧
      r'.freeze.allKeys q = KeySet.insert name (r.freeze.allKeys q) := by
  by_cases hq : id ∈ (r.freeze.chain q).map Prototype.id
  · exact (h.gains_chain hown hown' q).ofList_eq.imp_right fun hinsert => ⟨hq, hinsert⟩
  · left
    unfold Realm.allKeys
    rw [h.chain_freeze_eq hordered hq]

end

end Registry.SameBut

/-! ## Candidates -/

/-- Whether a request looks a name up in the tables of some levels. -/
def Request.LooksUp (q : Request) (name : String) : Prop :=
  (q.operation = .read ∨ q.operation = .invoke) ∧ q.key.memberName? = some name

/-- Where requests go by the name of the key, a level has the same candidates for a request that
does not look the name up. -/
theorem Prototype.SameBut.levelCandidates_eq {name : String} {p p' : Prototype}
    (h : p.SameBut name p') {ctx : Context} (hmode : ctx.config.tableKey = .member) {q : Request}
    (hq : ¬q.LooksUp name) : ctx.levelCandidates q p' = ctx.levelCandidates q p := by
  have hcapability : p'.capability? = p.capability? := h.congr (·.capability?) fun _ => rfl
  have hname : ∀ level, ctx.tableName? level q.key = q.key.memberName? := by
    intro level
    unfold Context.tableName?
    rw [hmode]
  have hentries : ctx.levelEntries p' q.operation q.key = ctx.levelEntries p q.operation q.key := by
    unfold Context.levelEntries
    rw [hname, hname, p.tables_eq_map, p'.tables_eq_map, List.filterMap_map, List.filterMap_map]
    refine List.filterMap_congr fun t ht => ?_
    rcases hkey : q.key.memberName? with _ | k
    · rfl
    · refine (h.table t).find?_eq k ?_
      rintro rfl
      -- an operation that searches any tables is a read or a call
      refine hq ⟨?_, hkey⟩
      rcases hoperation : q.operation <;> simp [hoperation, NameTable.searched] at ht ⊢
  unfold Context.levelCandidates
  rw [hcapability, hentries]

/-! ## Contexts -/

namespace Registry.SameBut

variable {id : ProtoId} {name : String} {r r' : Registry} (h : r.SameBut id name r')
  (host : Host) (converter : Converter) (config : Config)
include h

/-- Classification, views, coercions, constructors and capabilities do not depend on tables. -/
theorem classify_eq (v : Value) :
    (r'.context host converter config).classify v =
      (r.context host converter config).classify v := by
  have hdeclared : ∀ o, (r'.context host converter config).declared? o =
      (r.context host converter config).declared? o := by
    intro o
    unfold Context.declared?
    congr 1
    funext object
    congr 1
    funext ref
    have hresolve : (r'.context host converter config).realm.resolve? ref =
        (r.context host converter config).realm.resolve? ref := h.resolve?_freeze_eq ref
    have hsize : (r'.context host converter config).realm.size =
        (r.context host converter config).realm.size := h.size_freeze
    rw [hresolve, hsize]
  have hwellKnown : (r'.context host converter config).realm.wellKnown =
      (r.context host converter config).realm.wellKnown := h.wellKnown
  unfold Context.classify
  rw [hwellKnown]
  cases v with
  | object o => simp only [hdeclared]
  | _ => rfl

theorem viewThrough_eq (proto : ProtoId) (view : View) (this : Value) :
    (r'.context host converter config).viewThrough proto view this =
      (r.context host converter config).viewThrough proto view this := by
  have hview : ∀ r : Registry, (r.context host converter config).viewThrough proto view this =
      ((r.freeze.get? proto).map fun p => p.supplier view ⟨p.id, p.name⟩ this).getD
        (Program.newList []) := by
    intro r
    unfold Context.viewThrough
    rw [get?_context]
    rcases r.freeze.get? proto with _ | p <;> rfl
  rw [hview, hview, h.get?_freeze_map _ fun _ => by cases view <;> rfl]

theorem coerce_eq {α : Type} {strategy : Prototype → Coercion α}
    (hstrategy : ∀ p, strategy p.withoutTables = strategy p) (generic : Coercion α) (this : Value) :
    (r'.context host converter config).coerce strategy generic this =
      (r.context host converter config).coerce strategy generic this := by
  have hget : ((r'.context host converter config).realm.get?
      ((r.context host converter config).classify this)).map strategy =
      ((r.context host converter config).realm.get?
        ((r.context host converter config).classify this)).map strategy :=
    h.get?_freeze_map strategy hstrategy _
  unfold Context.coerce
  rw [h.classify_eq, hget]

theorem construct_eq (proto : ProtoId) (args : List Value) (cast : Cast) :
    (r'.context host converter config).construct proto args cast =
      (r.context host converter config).construct proto args cast := by
  unfold Context.construct
  rw [get?_context, get?_context, h.get?_freeze_bind (·.constructor?) fun _ => rfl]

theorem capability?_eq (proto : ProtoId) :
    (r'.context host converter config).capability? proto =
      (r.context host converter config).capability? proto :=
  h.get?_freeze_bind (·.capability?) (fun _ => rfl) proto

/-- What does not consult the tables tells the same of both realms. -/
theorem reflect_eq {q : Reflection} (hq : q.consultsTables = false) :
    (r'.context host converter config).reflect q = (r.context host converter config).reflect q := by
  have hget : ∀ {α : Type} (f : Prototype → α) (_ : ∀ p, f p.withoutTables = f p) (proto : ProtoId),
      ((r'.context host converter config).realm.get? proto).map f =
        ((r.context host converter config).realm.get? proto).map f :=
    fun f hf proto => h.get?_freeze_map f hf proto
  cases q with
  | member | ownKeys | allKeys | describe => cases hq
  | resolve ref => exact congrArg pure (h.resolve?_freeze_eq ref)
  | classify this => exact congrArg pure (h.classify_eq host converter config this)
  | size => exact congrArg pure h.size_freeze
  | outline proto => exact congrArg pure (hget (·.outline) (fun _ => rfl) proto)
  | chain proto => exact congrArg pure (h.map_id_chain_freeze proto)
  | constructor? proto =>
    have hconstructor := h.get?_freeze_bind (·.constructor?) (fun _ => rfl) proto
    exact congrArg (fun a? : Option Accessor => Program.done (a?.map (·.sort))) hconstructor
  | hasCapability proto =>
    exact congrArg (fun c? : Option Capability => Program.done c?.isSome)
      (h.capability?_eq host converter config proto)
  | displayText proto this =>
    exact congrArg _ (funext fun s => congrArg pure (hget (·.asString s this) (fun _ => rfl) proto))
  | numberOf proto this =>
    exact congrArg _ (funext fun s => congrArg pure (hget (·.asNumber s this) (fun _ => rfl) proto))
  | truthOf proto this =>
    exact congrArg _ (funext fun s =>
      congrArg pure (hget (·.asBoolean s this) (fun _ => rfl) proto))

/-- Blind queries are served by the same programs. -/
theorem handle_eq {q : Query} (hq : q.isBlind) :
    (r'.context host converter config).handle q = (r.context host converter config).handle q := by
  cases q with
  | read | write | invoke | delete | construct => cases hq
  | through server q =>
    cases server with
    | prototype | member => cases hq
    | capability id =>
      exact congrArg (fun c? : Option Capability => (c?.getD .passive).serve q)
        (h.capability?_eq host converter config id)
  | reflect q =>
    have hconsults : q.consultsTables = false := Bool.not_eq_true' _ ▸ hq
    exact h.reflect_eq host converter config hconsults
  | view view this =>
    change Context.viewThrough _ (Context.classify _ this) view this = _
    rw [h.classify_eq, h.viewThrough_eq]
    rfl
  | viewThrough proto view this =>
    have hresolve : (r'.context host converter config).realm.resolve? proto =
        (r.context host converter config).realm.resolve? proto := h.resolve?_freeze_eq proto
    simp only [Context.handle, hresolve]
    rcases (r.context host converter config).realm.resolve? proto with _ | id
    · rfl
    · exact h.viewThrough_eq host converter config id view this
  | displayText this => exact h.coerce_eq host converter config (fun _ => rfl) _ this
  | numberOf this => exact h.coerce_eq host converter config (fun _ => rfl) _ this
  | truthOf this => exact h.coerce_eq host converter config (fun _ => rfl) _ this
  | toScript v => rfl
  | toHost v hint => rfl
  | drain i => rfl

theorem nameOf_eq (q : ProtoId) : r'.freeze.nameOf q = r.freeze.nameOf q := by
  unfold Realm.nameOf
  rw [h.get?_freeze_map (·.name) fun _ => rfl]

/-- A request that does not look the name up, or does not pass the prototype, has the same
candidates to ask. -/
theorem candidates_eq (hordered : r.freeze.Ordered) (hmode : config.tableKey = .member)
    {start : ProtoId} {q : Request}
    (hq : q.LooksUp name → id ∉ (r.freeze.chain start).map Prototype.id) :
    (r'.context host converter config).candidates start q =
      (r.context host converter config).candidates start q := by
  have hlevels : (r'.freeze.chain start).flatMap
        ((r.context host converter config).levelCandidates q) =
      (r.freeze.chain start).flatMap ((r.context host converter config).levelCandidates q) := by
    -- a chain with the prototype is searched for another name, and one without it is the same chain
    by_cases hpasses : id ∈ (r.freeze.chain start).map Prototype.id
    · have hlooks : ¬q.LooksUp name := fun hlooks => hq hlooks hpasses
      have hchain := h.chain_freeze start
      generalize r.freeze.chain start = levels, r'.freeze.chain start = levels' at hchain
      induction hchain with
      | nil => rfl
      | cons hsame _ ih =>
        rw [List.flatMap_cons, List.flatMap_cons, ih, hsame.levelCandidates_eq hmode hlooks]
    · rw [h.chain_freeze_eq hordered hpasses]
  exact congrArg (_ ++ ·) hlevels

/-- The same candidates are asked, unless the request looks the name up along a chain with the
prototype. -/
theorem dispatch_eq (hordered : r.freeze.Ordered) (hmode : config.tableKey = .member)
    {start : ProtoId} {q : Request}
    (hq : q.LooksUp name → id ∉ (r.freeze.chain start).map Prototype.id) :
    (r'.context host converter config).dispatch start q =
      (r.context host converter config).dispatch start q := by
  have htrace : (r'.context host converter config).traceMiss q.operation start q.key =
      (r.context host converter config).traceMiss q.operation start q.key := by
    have hname : (r'.context host converter config).realm.nameOf start =
        (r.context host converter config).realm.nameOf start := h.nameOf_eq start
    unfold Context.traceMiss
    rw [hname]
    rfl
  rw [Context.dispatch_eq_askAll, Context.dispatch_eq_askAll, htrace,
    h.candidates_eq host converter config hordered hmode hq]

end Registry.SameBut

/-! ## The extra registration -/

/-- Two setups that differ in one registration, of any member under any name in any table of any
prototype, at any moment. Chains have the same prototypes. Own keys differ at most in the name, and
only for the prototype; the keys along a chain differ at most in the name, and only if the chain has
the prototype. Where tables are searched for the name of the key, and nobody but the caller
dispatches or looks into name tables, a read or a call goes the same way with the same effects
unless its key is the name and its chain has the prototype, and a write, a deletion and a
construction always do. -/
theorem registration_local (base : Session.Base) (config settings : Config) (host : Host)
    (converter : Converter) (before after : List Registry.Step) (id : ProtoId) (table : NameTable)
    (name : String) (a : Accessor) :
    let r := base.history config (before ++ after)
    let r' := base.history config (before ++ .edit id (table.registration name a) :: after)
    let ctx := r.context host converter settings
    let ctx' := r'.context host converter settings
    (∀ q, (r'.freeze.chain q).map Prototype.id = (r.freeze.chain q).map Prototype.id) ∧
    (∀ q, r'.freeze.ownKeys q = r.freeze.ownKeys q ∨
      q = id ∧ r'.freeze.ownKeys q = KeySet.insert name (r.freeze.ownKeys q)) ∧
    (∀ q, r'.freeze.allKeys q = r.freeze.allKeys q ∨
      id ∈ (r.freeze.chain q).map Prototype.id ∧
        r'.freeze.allKeys q = KeySet.insert name (r.freeze.allKeys q)) ∧
    (settings.tableKey = .member → ctx.IsBlind →
      (∀ v, ctx'.classify v = ctx.classify v) ∧
      (∀ start q, (q.LooksUp name → id ∉ (r.freeze.chain start).map Prototype.id) →
        ∀ depth m, ctx'.run depth (ctx'.dispatch start q) m =
          ctx.run depth (ctx.dispatch start q) m) ∧
      ∀ proto args cast depth m, ctx'.run depth (ctx'.construct proto args cast) m =
        ctx.run depth (ctx.construct proto args cast) m) := by
  intro r r' ctx ctx'
  have h : r.SameBut id name r' := base.sameBut_history config before after id table name a
  have hown := base.ownKeys_history config (before ++ after)
  have hown' := base.ownKeys_history config
    (before ++ .edit id (table.registration name a) :: after)
  have hordered : r.freeze.Ordered :=
    Registry.ordered_freeze (base.ancestral_history config (before ++ after))
  refine ⟨h.map_id_chain_freeze, h.ownKeys_freeze hown hown', h.allKeys_freeze hown hown' hordered,
    fun hmode hblind => ?_⟩
  -- both contexts start with the same program, which asks for nothing that they serve differently
  have hhandle : ∀ q, q.isBlind → ctx'.handle q = ctx.handle q :=
    fun q hq => h.handle_eq host converter settings hq
  refine ⟨h.classify_eq host converter settings, fun start q hq depth m => ?_,
    fun proto args cast depth m => ?_⟩
  · have hsame : ctx'.dispatch start q = ctx.dispatch start q :=
      h.dispatch_eq host converter settings hordered hmode hq
    rw [hsame]
    exact hblind.run_eq hhandle depth (hblind.dispatch start q) m
  · have hsame : ctx'.construct proto args cast = ctx.construct proto args cast :=
      h.construct_eq host converter settings proto args cast
    rw [hsame]
    exact hblind.run_eq hhandle depth (hblind.construct proto args cast) m

/-- The core realm, with nothing from the host, as the end of a setup that takes no step. -/
theorem Session.Base.isBlind_history_core :
    ((Session.Base.core.history .standard []).context .empty .standard .standard).IsBlind :=
  Context.isBlind_core Config.standard.hostObjectName .standard

/-- A member that arrays are given in the core realm, under a name that was free: texts do not have
it, and the arrays have the same length as before. -/
theorem registration_local_first :
    let r := Session.Base.core.history .standard []
    let r' := Session.Base.core.history .standard
      [.edit ⟨1⟩ (NameTable.staticProperties.registration "first" (.staticValue .null))]
    let ctx := r.context .empty .standard .standard
    let ctx' := r'.context .empty .standard .standard
    let ofText := Request.read (.string "abc") (.string "first") .identity
    let ofArray := Request.read (.list ⟨0⟩) (.string "length") .identity
    let m : Machine := ⟨⟨#[[.null]], #[]⟩, #[]⟩
    ctx.IsBlind ∧
      (⟨1⟩ ∉ (r.freeze.chain ⟨2⟩).map Prototype.id ∧
        ctx'.run 1 (ctx'.dispatch ⟨2⟩ ofText) m = ctx.run 1 (ctx.dispatch ⟨2⟩ ofText) m) ∧
      (¬ofArray.LooksUp "first" ∧
        ctx'.run 1 (ctx'.dispatch ⟨1⟩ ofArray) m = ctx.run 1 (ctx.dispatch ⟨1⟩ ofArray) m) := by
  intro r r' ctx ctx' ofText ofArray m
  have hblind : ctx.IsBlind := Session.Base.isBlind_history_core
  have hchain : ⟨1⟩ ∉ (r.freeze.chain ⟨2⟩).map Prototype.id := by
    have hlevels : r.freeze.chain ⟨2⟩ = _ :=
      Realm.chain_core Config.standard.hostObjectName .string
    rw [hlevels]
    simp [Builtin.prototype, Prototype.install, Builtin.barePrototype, Builtin.roleId,
      Builtin.roleParent]
  have hlooks : ¬ofArray.LooksUp "first" := by
    rintro ⟨-, hkey⟩
    simp [ofArray, Request.key, Value.memberName?] at hkey
  obtain ⟨-, -, -, hruns⟩ := registration_local .core .standard .standard .empty .standard [] [] ⟨1⟩
    .staticProperties "first" (.staticValue .null)
  obtain ⟨-, hdispatch, -⟩ := hruns rfl hblind
  exact ⟨hblind, ⟨hchain, hdispatch ⟨2⟩ ofText (fun _ => hchain) 1 m⟩,
    hlooks, hdispatch ⟨1⟩ ofArray (fun h => absurd h hlooks) 1 m⟩

/-! ## A property that counts keys -/

/-- Registering a member that asks what is allowed keeps a prototype to that. -/
theorem Prototype.AsksOnly.register {allowed : Query → Prop} {p : Prototype}
    (h : p.AsksOnly allowed) {a : Accessor} (ha : a.AsksOnly allowed) (t : NameTable)
    (name : String) : (p.after (t.registration name a)).AsksOnly allowed where
  member t' k b hb := by
    have htable : (p.after (t.registration name a)).table t' = p.table t' ∨
        (p.after (t.registration name a)).table t' = (p.table t').insert name a := by
      cases t <;> cases t' <;> first
        | exact .inl rfl
        | exact .inr rfl
    rcases htable with hsame | hinsert
    · rw [hsame] at hb
      exact h.member t' k b hb
    · rw [hinsert] at hb
      by_cases hk : k = name
      · subst hk
        rw [Assoc.find?_insert_self] at hb
        cases hb
        exact ha
      · rw [Assoc.find?_insert_of_ne _ _ hk] at hb
        exact h.member t' k b hb
  constructor b hb := by
    rw [(p.sameBut_after t name a).congr (·.constructor?) fun _ => rfl] at hb
    exact h.constructor b hb
  capability c hc := by
    rw [(p.sameBut_after t name a).congr (·.capability?) fun _ => rfl] at hc
    exact h.capability c hc
  supplier view owner this := by
    rw [(p.sameBut_after t name a).congr (·.supplier view) fun _ => by cases view <;> rfl]
    exact h.supplier view owner this

/-- With a member that asks what is allowed, a context goes on to do so. -/
theorem Registry.asksOnly_register {allowed : Query → Prop} {r : Registry} {host : Host}
    {converter : Converter} {config : Config}
    (h : (r.context host converter config).AsksOnly allowed) {a : Accessor}
    (ha : a.AsksOnly allowed) (id : ProtoId) (t : NameTable) (name : String) :
    ((r.perform (.edit id (t.registration name a))).context host converter config).AsksOnly
      allowed where
  prototype := by
    rw [perform_edit]
    exact forall_modify h.prototype id fun p hp => hp.register ha t name
  own := h.own
  drain := h.drain
  toScript := h.toScript
  toHost := h.toHost

/-- Counts the keys of the root. -/
def Builtin.keyCount : Accessor :=
  .property fun _ => do
    return .count (← Program.ask (.reflect (.allKeys (roleId .object)))).length

/-- A property that counts the keys of the root never dispatches. It sees all the same that the root
is given a member, of another name than the one that is read. -/
theorem keyCount_sees_registration :
    let steps : List Registry.Step :=
      [.edit ⟨2⟩ (NameTable.properties.registration "count" Builtin.keyCount)]
    let extra : Registry.Step :=
      .edit ⟨0⟩ (NameTable.properties.registration "extra" (.property fun _ => pure .null))
    let ctx := (Session.Base.core.history .standard steps).context .empty .standard .standard
    let ctx' := (Session.Base.core.history .standard (steps ++ [extra])).context .empty .standard
      .standard
    let q := Request.read (.string "abc") (.string "count") .identity
    let m : Machine := ⟨⟨#[], #[]⟩, #[]⟩
    ctx.NeverDispatches ∧ ctx'.NeverDispatches ∧ ¬q.LooksUp "extra" ∧
      ctx.run 2 (ctx.dispatch ⟨2⟩ q) m = .returned (.found (.count 5)) m ∧
      ctx'.run 2 (ctx'.dispatch ⟨2⟩ q) m = .returned (.found (.count 6)) m := by
  intro steps extra ctx ctx' q m
  have hcore := Session.Base.isBlind_history_core.neverDispatches
  have hcount : Builtin.keyCount.AsksOnly (·.dispatches = false) :=
    fun _ => Program.AsksOnly.bind (Program.asksOnly_ask rfl) fun _ => trivial
  have hnever : ctx.NeverDispatches :=
    Registry.asksOnly_register hcore hcount ⟨2⟩ .properties "count"
  have hextra : (Accessor.property fun _ => pure .null).AsksOnly (·.dispatches = false) :=
    fun _ => trivial
  refine ⟨hnever, Registry.asksOnly_register hnever hextra ⟨0⟩ .properties "extra", ?_, rfl, rfl⟩
  rintro ⟨-, hkey⟩
  simp [q, Request.key, Value.memberName?] at hkey

end ScriptRealm
