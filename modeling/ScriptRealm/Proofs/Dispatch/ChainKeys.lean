import Mathlib.Data.List.Basic
import ScriptRealm.Proofs.Dispatch.Walk
import ScriptRealm.Proofs.Setup.Ancestry
import ScriptRealm.Proofs.Setup.SharedKeys

/-!
# Keys along chains

The own keys of a prototype are the names in its property and function tables, whenever they are
asked for. The keys along a chain are the own keys of its levels, and they cover whatever dispatch
can come to in those tables: an operation whose key is none of them goes as if the two tables were
empty in the whole realm.
-/

namespace ScriptRealm

/-- The one ascending list of the names with a property. -/
def KeySet.Lists (keys : List String) (holds : String → Prop) : Prop :=
  Ascending keys ∧ ∀ name, name ∈ keys ↔ holds name

namespace Prototype

/-- Whether a name stands in the property table or in the function table. -/
def HasKey (p : Prototype) (name : String) : Prop :=
  (p.properties.find? name).isSome ∨ (p.functions.find? name).isSome

theorem lists_tableKeys (p : Prototype) : KeySet.Lists p.tableKeys p.HasKey := by
  refine ⟨KeySet.ascending_ofList _, fun name => ?_⟩
  rw [tableKeys, KeySet.mem_ofList, List.mem_append, Assoc.mem_keys_iff, Assoc.mem_keys_iff, HasKey]

/-- A prototype without properties and functions. -/
def withoutKeys (p : Prototype) : Prototype :=
  { p with properties := ∅, functions := ∅, keyCache := none }

end Prototype

/-! ## Keys of a realm -/

namespace Realm

/-- A realm in which no prototype has properties or functions. -/
def withoutKeys (r : Realm) : Realm :=
  { r with prototypes := r.prototypes.map (·.withoutKeys) }

variable {r : Realm} {id : ProtoId} {p : Prototype}

/-- The chain of a child is that of its parent with the child before it. -/
theorem Ordered.chain_eq_cons (hr : r.Ordered) (hp : r.get? id = some p) :
    r.chain id = p :: (p.parent.map r.chain).getD [] := by
  have hrest : r.Yields p.parent ((p.parent.map r.chain).getD []) := by
    cases p.parent with
    | none => exact .ends rfl
    | some q => exact hr.yields_chain q
  exact (hr.yields_chain id).unique (.turns (advance_some hp) hrest)

theorem ownKeys_of_get? (hp : r.get? id = some p) : r.ownKeys id = p.ownKeys := by
  rw [ownKeys, hp]
  rfl

theorem mem_allKeys_iff (name : String) :
    name ∈ r.allKeys id ↔ ∃ p ∈ r.chain id, name ∈ p.ownKeys := by
  rw [allKeys, KeySet.mem_ofList, List.mem_flatMap]

/-- The keys of a child are its own keys and those of its parent. -/
theorem Ordered.allKeys_eq (hr : r.Ordered) (hp : r.get? id = some p) :
    r.allKeys id = KeySet.ofList (r.ownKeys id ++ (p.parent.map r.allKeys).getD []) := by
  refine (KeySet.ascending_ofList _).ext (KeySet.ascending_ofList _) fun name => ?_
  rw [KeySet.mem_ofList, KeySet.mem_ofList, hr.chain_eq_cons hp, List.flatMap_cons,
    ownKeys_of_get? hp, List.mem_append, List.mem_append]
  cases p.parent with
  | none => rfl
  | some q =>
    rw [Option.map_some, Option.map_some, Option.getD_some, Option.getD_some, allKeys,
      KeySet.mem_ofList]

/-- The handle of a level leads to it. -/
theorem Ordered.get?_of_mem_chain (hr : r.Ordered) (hp : p ∈ r.chain id) :
    r.get? p.id = some p := by
  obtain ⟨q, hget⟩ := exists_get?_of_mem_chain hp
  rw [(hr q p hget).1]
  exact hget

theorem get?_withoutKeys (r : Realm) (id : ProtoId) :
    r.withoutKeys.get? id = (r.get? id).map (·.withoutKeys) :=
  Array.getElem?_map

theorem chain_withoutKeys (r : Realm) (id : ProtoId) :
    r.withoutKeys.chain id = (r.chain id).map (·.withoutKeys) := by
  have hchain : ∀ (fuel : Nat) (id : ProtoId),
      r.withoutKeys.chainUpTo fuel id = (r.chainUpTo fuel id).map (·.withoutKeys) := by
    intro fuel
    induction fuel with
    | zero => exact fun id => rfl
    | succ fuel ih =>
      intro id
      have hget := r.get?_withoutKeys id
      cases hp : r.get? id with
      | none =>
        rw [hp] at hget
        rw [chainUpTo_unknown hget, chainUpTo_unknown hp]
        rfl
      | some p =>
        rw [hp] at hget
        have hparent : p.withoutKeys.parent = p.parent := rfl
        rw [chainUpTo_succ hget, chainUpTo_succ hp, hparent, List.map_cons]
        cases p.parent with
        | none => rfl
        | some q => exact congrArg _ (ih q)
  have hsize : r.withoutKeys.size = r.size := Array.size_map
  rw [chain, chain, hsize, hchain]

end Realm

/-! ## Keys and dispatch -/

namespace Context

variable (ctx : Context)

/-- A request that is served from a prototype comes to a name in the property table of a level, or
in its function table if it is a call. -/
def Meets (start : ProtoId) (q : Request) (name : String) : Prop :=
  ∃ level ∈ ctx.realm.chain start, ctx.tableName? level q.key = some name ∧
    ∃ table, (level.tables q.operation).head? = some table ∧ (table.find? name).isSome

/-- The context of a realm in which no prototype has properties or functions. -/
def withoutKeys : Context :=
  { ctx with realm := ctx.realm.withoutKeys }

variable {ctx}

/-- The first table that an operation searches is one of those that have keys. -/
theorem hasKey_of_find? {level : Prototype} {operation : Operation} {table : Assoc Accessor}
    {name : String} (htable : (level.tables operation).head? = some table)
    (hname : (table.find? name).isSome) : level.HasKey name := by
  cases operation with
  | read =>
    cases htable
    exact .inl hname
  | invoke =>
    cases htable
    exact .inr hname
  | write | delete => cases htable

theorem levelCandidates_withoutKeys (hmode : ctx.config.tableKey = .member) {q : Request}
    {level : Prototype} (hq : ∀ name, q.key.memberName? = some name → ¬level.HasKey name) :
    ctx.withoutKeys.levelCandidates q level.withoutKeys = ctx.levelCandidates q level := by
  have htableName : ∀ level, ctx.tableName? level q.key = q.key.memberName? := by
    intro level
    unfold tableName?
    rw [hmode]
  have hentries : ctx.levelEntries level.withoutKeys q.operation q.key =
      ctx.levelEntries level q.operation q.key := by
    unfold levelEntries
    rw [htableName, htableName]
    cases hkey : q.key.memberName? with
    | none => cases q.operation <;> rfl
    | some name =>
      -- the name is in neither of the tables that were emptied
      obtain ⟨hproperty, hfunction⟩ := not_or.1 (hq name hkey)
      rw [Option.not_isSome_iff_eq_none] at hproperty hfunction
      cases q.operation with
      | read => simp [Prototype.tables, Prototype.withoutKeys, List.filterMap_cons, hproperty]
      | invoke => simp [Prototype.tables, Prototype.withoutKeys, List.filterMap_cons, hfunction]
      | write | delete => rfl
  have hsame : ctx.withoutKeys.levelCandidates q level.withoutKeys =
      level.capability?.toList.map .level ++
        (ctx.levelEntries level.withoutKeys q.operation q.key).map .entry := rfl
  rw [hsame, hentries, levelCandidates]

/-- A request whose key is not among the keys along the chain goes as if there were none. -/
theorem dispatch_withoutKeys (hmode : ctx.config.tableKey = .member) {start : ProtoId} {q : Request}
    (hq : ∀ name, q.key.memberName? = some name →
      ∀ level ∈ ctx.realm.chain start, ¬level.HasKey name) :
    ctx.withoutKeys.dispatch start q = ctx.dispatch start q := by
  have hlevels : (ctx.withoutKeys.realm.chain start).flatMap (ctx.withoutKeys.levelCandidates q) =
      (ctx.realm.chain start).flatMap (ctx.levelCandidates q) := by
    have hchain : ctx.withoutKeys.realm.chain start =
        (ctx.realm.chain start).map (·.withoutKeys) := ctx.realm.chain_withoutKeys start
    rw [hchain, List.flatMap_map]
    refine List.flatMap_congr fun level hlevel => ?_
    exact levelCandidates_withoutKeys hmode fun name hname => hq name hname level hlevel
  have hcandidates : ctx.withoutKeys.candidates start q = ctx.candidates start q :=
    congrArg (_ ++ ·) hlevels
  have htrace : ctx.withoutKeys.traceMiss q.operation start q.key =
      ctx.traceMiss q.operation start q.key := by
    have hname : ctx.withoutKeys.realm.nameOf start = ctx.realm.nameOf start := by
      have hget : ctx.withoutKeys.realm.get? start = _ := ctx.realm.get?_withoutKeys start
      rw [Realm.nameOf, Realm.nameOf, hget, Option.map_map]
      rfl
    unfold traceMiss
    rw [hname]
    rfl
  rw [dispatch_eq_askAll, dispatch_eq_askAll, hcandidates, htrace]

end Context

/-! ## Keys after a setup -/

theorem Registry.ownKeys?_of_get? {r : Registry} {id : ProtoId} {p : Prototype}
    (hp : r.get? id = some p) : r.ownKeys? id = some (p.ownKeys, r.set id p.cacheKeys) := by
  rw [ownKeys?, hp, Option.map_some]

namespace Session.Base

variable (base : Session.Base) {config : Config} {steps : List Registry.Step}

/-- What a prototype remembers, if anything, are the names in its tables. -/
theorem lists_ownKeys {id : ProtoId} {p : Prototype}
    (hp : (base.history config steps).get? id = some p) : KeySet.Lists p.ownKeys p.HasKey := by
  rw [base.ownKeys_history config steps p (Array.mem_of_getElem? hp)]
  exact p.lists_tableKeys

variable (config steps)

theorem lists_ownKeys_freeze (id : ProtoId) :
    KeySet.Lists ((base.history config steps).freeze.ownKeys id) fun name =>
      ∃ p, (base.history config steps).freeze.get? id = some p ∧ p.HasKey name := by
  cases hp : (base.history config steps).freeze.get? id with
  | none =>
    -- a handle that leads nowhere has no keys
    rw [Realm.ownKeys, hp]
    exact ⟨List.Pairwise.nil, by simp⟩
  | some p =>
    rw [Realm.ownKeys_of_get? hp]
    simpa using base.lists_ownKeys hp

end Session.Base

/-- At each moment of each setup, own keys are the names in the property and function tables, and a
set that was handed out at some moment holds to the end what it held then. In the realm of the
setup, the keys along a chain are the own keys of its levels together, for a child its own and those
of its parent. They have every name that a read or a call comes to in a property or function table:
with a key that names none of them, an operation has the same outcome and effects as without these
tables. -/
theorem keys_never_stale (base : Session.Base) (config settings : Config)
    (steps : List Registry.Step) (host : Host) (converter : Converter) :
    let r := base.history config steps
    let ctx := r.context host converter settings
    (∀ id p, r.get? id = some p → ∃ keys r', r.ownKeys? id = some (keys, r') ∧
      KeySet.Lists keys p.HasKey) ∧
    (∀ before id after p, steps = before ++ .ownKeys id :: after →
      (base.history config before).get? id = some p →
      ∃ keys r', (base.history config before).ownKeys? id = some (keys, r') ∧
        KeySet.Lists keys p.HasKey ∧
        (base.shelf config steps).sets[(base.shelf config before).handedOut id]? = some keys) ∧
    (∀ id, KeySet.Lists (r.freeze.ownKeys id) fun name =>
      ∃ p, r.freeze.get? id = some p ∧ p.HasKey name) ∧
    (∀ id, KeySet.Lists (r.freeze.allKeys id) fun name =>
      ∃ p ∈ r.freeze.chain id, name ∈ r.freeze.ownKeys p.id) ∧
    (∀ id p, r.freeze.get? id = some p → r.freeze.allKeys id =
      KeySet.ofList (r.freeze.ownKeys id ++ (p.parent.map r.freeze.allKeys).getD [])) ∧
    ∀ start q,
      (∀ name, ctx.Meets start q name → name ∈ r.freeze.allKeys start) ∧
      (settings.tableKey = .member →
        (∀ name, q.key.memberName? = some name → name ∉ r.freeze.allKeys start) →
        ctx.withoutKeys.dispatch start q = ctx.dispatch start q) := by
  intro r ctx
  have hordered : r.freeze.Ordered :=
    Registry.ordered_freeze (base.ancestral_history config steps)
  -- the cache of each level is coherent, so that its keys are the names in its tables
  have hlevels : ∀ {id p}, p ∈ r.freeze.chain id → ∀ name, name ∈ p.ownKeys ↔ p.HasKey name :=
    fun hp => (base.lists_ownKeys (hordered.get?_of_mem_chain hp)).2
  refine ⟨fun id p hp => ⟨_, _, Registry.ownKeys?_of_get? hp, base.lists_ownKeys hp⟩,
    fun before id after p hsteps hp => ?_, base.lists_ownKeys_freeze config steps,
    fun id => ⟨KeySet.ascending_ofList _, fun name => ?_⟩,
    fun id p hp => hordered.allKeys_eq hp, fun start q => ⟨?_, fun hmode hkey => ?_⟩⟩
  · refine ⟨_, _, Registry.ownKeys?_of_get? hp, base.lists_ownKeys hp, ?_⟩
    rw [hsteps]
    exact base.sets_handedOut config before after hp
  · rw [Realm.mem_allKeys_iff]
    refine exists_congr fun p => and_congr_right fun hp => ?_
    rw [Realm.ownKeys_of_get? (hordered.get?_of_mem_chain hp)]
  · -- a name that an operation meets is in a table of a level
    rintro name ⟨level, hlevel, -, table, htable, hname⟩
    rw [Realm.mem_allKeys_iff]
    exact ⟨level, hlevel, (hlevels hlevel name).2 (Context.hasKey_of_find? htable hname)⟩
  · -- a name that is no key along the chain is in no table of it
    refine Context.dispatch_withoutKeys hmode fun name hname level hlevel hhas => ?_
    exact hkey name hname (Realm.mem_allKeys_iff name |>.2
      ⟨level, hlevel, (hlevels hlevel name).2 hhas⟩)

end ScriptRealm
