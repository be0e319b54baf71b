import ScriptRealm.Proofs.Dispatch.Request
import ScriptRealm.Proofs.Setup.History

/-!
# Ancestry

Walks along parents have no guard against cycles. They end because every setup keeps an invariant of
the arena: handles are positions, and a parent has a smaller handle than its child. So the handles
fall along a walk, and it ends at a prototype without a parent. An arena may outgrow the handles.
The prototypes behind the last handle cannot be pointed at, so no walk meets them.
-/

namespace ScriptRealm

/-- The prototype has the handle of its position, and its parent stands before it. -/
def Prototype.Outline.PlacedAt (o : Prototype.Outline) (i : Nat) : Prop :=
  o.id = .ofPosition i ∧ ∀ q, o.parent = some q → q.index < i

/-- All prototypes of an arena are in their places. -/
def Ancestral (outlines : List Prototype.Outline) : Prop :=
  ∀ (i : Nat) (o : Prototype.Outline), outlines[i]? = some o → o.PlacedAt i

/-! ## Every setup keeps the invariant -/

/-- One more prototype can be put behind the others if its parent stands among them. -/
theorem ancestral_concat {outlines : List Prototype.Outline} {o : Prototype.Outline}
    (h : Ancestral outlines) (ho : o.PlacedAt outlines.length) : Ancestral (outlines ++ [o]) := by
  intro i o' hi
  by_cases hlt : i < outlines.length
  · rw [List.getElem?_append_left hlt] at hi
    exact h i o' hi
  · have hlen := (List.getElem?_eq_some_iff.1 hi).1
    have heq : i = outlines.length := by
      simp at hlen
      omega
    subst heq
    rw [List.getElem?_concat_length] at hi
    cases hi
    exact ho

namespace Registry

/-- A prototype of the arena lies at its own handle. -/
theorem id_eq_of_get? {r : Registry} (h : Ancestral r.outlines) {id : ProtoId} {p : Prototype}
    (hp : r.get? id = some p) : p.id = id := by
  have hp' : r.prototypes[id.index]? = some p := hp
  have ho : r.outlines[id.index]? = some p.outline := by
    rw [getElem?_outlines, hp', Option.map_some]
  exact (h _ _ ho).1.trans id.ofPosition_index

/-- A prototype of the arena has a smaller handle than the next one to be appended. -/
theorem id_lt_of_get? {r : Registry} (h : Ancestral r.outlines) {id : ProtoId} {p : Prototype}
    (hp : r.get? id = some p) : p.id.index < r.prototypes.size := by
  rw [id_eq_of_get? h hp]
  exact (Array.getElem?_eq_some_iff.1 hp).1

theorem ancestral_push {r : Registry} (h : Ancestral r.outlines) (name : String)
    (kind : ProtoKind) (parent : Option ProtoId) :
    Ancestral (r.push name kind parent).outlines := by
  rw [outlines_push]
  apply ancestral_concat h
  rw [length_outlines]
  refine ⟨rfl, ?_⟩
  -- a parent that the registry does not know is left out, and one that it knows stands below
  intro q hq
  obtain ⟨p, hp, rfl⟩ := Option.map_eq_some_iff.1 hq
  obtain ⟨id, -, hget⟩ := Option.bind_eq_some_iff.1 hp
  exact id_lt_of_get? h hget

/-- No step of a setup moves a prototype or gives it another parent. -/
theorem ancestral_perform {r : Registry} (h : Ancestral r.outlines) (step : Step) :
    Ancestral (r.perform step).outlines := by
  rcases perform_cases r step with ⟨name, kind, parent, -, hstep⟩ | ⟨hstep, -⟩
  · rw [hstep]
    exact ancestral_push h name kind parent
  · rw [hstep]
    exact h

theorem ancestral_performAll {r : Registry} (h : Ancestral r.outlines) (steps : List Step) :
    Ancestral (r.performAll steps).outlines := by
  induction steps generalizing r with
  | nil => exact h
  | cons step rest ih => exact ih (ancestral_perform h step)

theorem ancestral_bare (hostObjectName : String) :
    Ancestral (Registry.bare hostObjectName).outlines := by
  have hnone : Ancestral [] := by
    intro i o hi
    simp at hi
  -- the well-known prototypes are pushed one after the other onto an empty arena
  unfold bare
  iterate 7 apply ancestral_push
  exact hnone

end Registry

/-- Every registry that a setup reaches is well placed. -/
theorem Session.Base.ancestral_history (base : Session.Base) (config : Config)
    (steps : List Registry.Step) : Ancestral (base.history config steps).outlines := by
  apply Registry.ancestral_performAll
  have hbare := Registry.ancestral_bare config.hostObjectName
  cases base with
  | core =>
    unfold Session.Base.registry
    rw [Registry.outlines_core]
    exact hbare
  | bare => exact hbare
  | standard => exact hbare

/-! ## Walks along parents -/

namespace Realm

/-- One turn of a walk: the prototype at the cursor, if there is one, and the cursor after it. -/
def advance (r : Realm) (cursor : Option ProtoId) : Option (Prototype × Option ProtoId) := do
  let p ← r.get? (← cursor)
  return (p, p.parent)

/-- A walk from a cursor gives these prototypes, one a turn, and then ends. -/
inductive Yields (r : Realm) : Option ProtoId → List Prototype → Prop where
  | ends {cursor : Option ProtoId} (h : r.advance cursor = none) : Yields r cursor []
  | turns {cursor next : Option ProtoId} {p : Prototype} {rest : List Prototype}
      (h : r.advance cursor = some (p, next)) (hrest : Yields r next rest) :
      Yields r cursor (p :: rest)

/-- A walk meets the same prototypes every time. -/
theorem Yields.unique {r : Realm} {cursor : Option ProtoId} {ps qs : List Prototype}
    (hp : r.Yields cursor ps) (hq : r.Yields cursor qs) : ps = qs := by
  induction hp generalizing qs with
  | ends h =>
    cases hq with
    | ends => rfl
    | turns h' => rw [h] at h'; cases h'
  | turns h _ ih =>
    cases hq with
    | ends h' => rw [h] at h'; cases h'
    | turns h' hrest =>
      rw [h] at h'
      cases h'
      rw [ih hrest]

theorem advance_some {r : Realm} {id : ProtoId} {p : Prototype} (h : r.get? id = some p) :
    r.advance (some id) = some (p, p.parent) := by
  simp [advance, h]

theorem advance_unknown {r : Realm} {id : ProtoId} (h : r.get? id = none) :
    r.advance (some id) = none := by
  simp [advance, h]

/-- A walk goes on from a known prototype to its parent. -/
theorem eq_some_of_advance {r : Realm} {cursor next : Option ProtoId} {p : Prototype}
    (h : r.advance cursor = some (p, next)) :
    ∃ id, cursor = some id ∧ r.get? id = some p ∧ next = p.parent := by
  cases cursor with
  | none => cases h
  | some id =>
    cases hget : r.get? id with
    | none => rw [advance_unknown hget] at h; cases h
    | some p' =>
      rw [advance_some hget] at h
      cases h
      exact ⟨id, rfl, hget, rfl⟩

/-- The invariant of the arena, by handles. -/
def Ordered (r : Realm) : Prop :=
  ∀ (id : ProtoId) (p : Prototype), r.get? id = some p →
    p.id = id ∧ ∀ q, p.parent = some q → q.index < id.index

/-! ## Walks in an ordered realm -/

variable {r : Realm}

theorem get?_eq_none_iff {id : ProtoId} : r.get? id = none ↔ r.size ≤ id.index := by
  simp [get?, size]

/-- The parent of a prototype is known to the realm. -/
theorem Ordered.exists_parent (hr : r.Ordered) {id q : ProtoId} {p : Prototype}
    (hp : r.get? id = some p) (hq : p.parent = some q) : ∃ p', r.get? q = some p' := by
  have hlt := (hr id p hp).2 q hq
  have hid : ¬ r.size ≤ id.index := by
    rw [← get?_eq_none_iff, hp]
    simp
  cases hget : r.get? q with
  | none =>
    rw [get?_eq_none_iff] at hget
    omega
  | some p' => exact ⟨p', rfl⟩

/-- A walk from an unknown handle ends at once. -/
theorem chainUpTo_unknown {id : ProtoId} (h : r.get? id = none) (fuel : Nat) :
    r.chainUpTo fuel id = [] := by
  cases fuel with
  | zero => rfl
  | succ fuel => simp [chainUpTo, h]

/-- The bound on the number of turns is never met: the handles fall below it first. -/
theorem Ordered.yields_chainUpTo (hr : r.Ordered) {fuel : Nat} {id : ProtoId}
    (hfuel : id.index < fuel) : r.Yields (some id) (r.chainUpTo fuel id) := by
  induction fuel generalizing id with
  | zero => omega
  | succ fuel ih =>
    cases hp : r.get? id with
    | none =>
      rw [chainUpTo_unknown hp]
      exact .ends (advance_unknown hp)
    | some p =>
      simp only [chainUpTo, hp]
      apply Yields.turns (advance_some hp)
      cases hq : p.parent with
      | none => exact .ends rfl
      | some q =>
        have hlt := (hr id p hp).2 q hq
        exact ih (by omega)

/-- The walk from a handle gives its chain, and ends. -/
theorem Ordered.yields_chain (hr : r.Ordered) (id : ProtoId) :
    r.Yields (some id) (r.chain id) := by
  unfold chain
  by_cases hid : id.index < r.size
  · exact hr.yields_chainUpTo hid
  · have hunknown : r.get? id = none := get?_eq_none_iff.2 (by omega)
    rw [chainUpTo_unknown hunknown]
    exact .ends (advance_unknown hunknown)

/-- All handles of a walk are below any bound on the cursor. -/
theorem Ordered.id_lt_of_yields (hr : r.Ordered) {cursor : Option ProtoId} {ps : List Prototype}
    (h : r.Yields cursor ps) (bound : Nat) (hbound : ∀ id, cursor = some id → id.index < bound) :
    ∀ p ∈ ps, p.id.index < bound := by
  induction h with
  | ends h => simp
  | turns h _ ih =>
    obtain ⟨id, rfl, hget, rfl⟩ := eq_some_of_advance h
    have hid := hbound id rfl
    intro p hp
    rcases List.mem_cons.1 hp with rfl | hp
    · rw [(hr id p hget).1]
      exact hid
    · refine ih (fun q hq => ?_) p hp
      have hlt := (hr id _ hget).2 q hq
      omega

/-- The handles fall along a walk. -/
theorem Ordered.descends (hr : r.Ordered) {cursor : Option ProtoId} {ps : List Prototype}
    (h : r.Yields cursor ps) : ps.Pairwise fun p q => q.id.index < p.id.index := by
  induction h with
  | ends h => exact List.Pairwise.nil
  | turns h hrest ih =>
    obtain ⟨id, rfl, hget, rfl⟩ := eq_some_of_advance h
    have hp := hr id _ hget
    apply List.Pairwise.cons _ ih
    rw [hp.1]
    exact hr.id_lt_of_yields hrest _ hp.2

/-- A walk has at most as many levels as there are handles up to its beginning. -/
theorem Ordered.length_le (hr : r.Ordered) {cursor : Option ProtoId} {ps : List Prototype}
    (h : r.Yields cursor ps) (bound : Nat) (hbound : ∀ id, cursor = some id → id.index < bound) :
    ps.length ≤ bound := by
  induction h generalizing bound with
  | ends h => exact Nat.zero_le _
  | turns h _ ih =>
    obtain ⟨id, rfl, hget, rfl⟩ := eq_some_of_advance h
    have hid := hbound id rfl
    have hrest := ih _ (hr id _ hget).2
    rw [List.length_cons]
    omega

/-- A walk ends at a prototype that has no parent. -/
theorem Ordered.parent_getLast? (hr : r.Ordered) {cursor : Option ProtoId} {ps : List Prototype}
    (h : r.Yields cursor ps) : ∀ p, ps.getLast? = some p → p.parent = none := by
  induction h with
  | ends h => simp
  | @turns cursor next last rest h hrest ih =>
    obtain ⟨id, rfl, hget, rfl⟩ := eq_some_of_advance h
    intro p hp
    cases hrest with
    | turns h' hrest' => exact ih p (by simpa using hp)
    | ends hend =>
      -- the walk ended behind `last`, and a parent of it would have been known
      have hlast : last = p := Option.some.inj hp
      rw [← hlast]
      cases hparent : last.parent with
      | none => rfl
      | some q =>
        obtain ⟨p', hp'⟩ := hr.exists_parent hget hparent
        rw [hparent, advance_some hp'] at hend
        cases hend

/-- Only unknown handles have an empty chain. -/
theorem Ordered.chain_eq_nil_iff (hr : r.Ordered) (id : ProtoId) :
    r.chain id = [] ↔ r.get? id = none := by
  constructor
  · intro hnil
    have hwalk := hr.yields_chain id
    rw [hnil] at hwalk
    cases hwalk with
    | ends hend =>
      cases hget : r.get? id with
      | none => rfl
      | some p => rw [advance_some hget] at hend; cases hend
  · intro hget
    exact chainUpTo_unknown hget _

/-- No walk comes back to a prototype, since handles descend. -/
theorem Ordered.nodup_chain (hr : r.Ordered) (id : ProtoId) :
    ((r.chain id).map (·.id)).Nodup := by
  rw [List.Nodup, List.pairwise_map]
  refine (hr.descends (hr.yields_chain id)).imp ?_
  intro p q hlt heq
  rw [heq] at hlt
  omega

end Realm

/-- Freezing keeps parents below their children. -/
theorem Registry.ordered_freeze {r : Registry} (h : Ancestral r.outlines) : r.freeze.Ordered := by
  intro id p hp
  have hp' : r.prototypes[id.index]? = some p := hp
  have ho : r.outlines[id.index]? = some p.outline := by
    rw [Registry.getElem?_outlines, hp', Option.map_some]
  obtain ⟨hid, hparent⟩ := h _ _ ho
  exact ⟨hid.trans id.ofPosition_index, hparent⟩

/-! ## Candidates of a walk -/

namespace Context

variable (ctx : Context)

/-- A level has three candidates at most: its capability and two members. -/
theorem length_levelCandidates_le (q : Request) (level : Prototype) :
    (ctx.levelCandidates q level).length ≤ 3 := by
  have htables : (level.tables q.operation).length ≤ 2 := by
    cases q <;> simp [Request.operation, Prototype.tables]
  have hentries : (ctx.levelEntries level q.operation q.key).length ≤ 2 :=
    Nat.le_trans (List.length_filterMap_le _ _) htables
  have hcapability : level.capability?.toList.length ≤ 1 := by
    cases level.capability? <;> simp
  simp only [levelCandidates, List.length_append, List.length_map]
  omega

/-- Dispatch has at most the receiver and three candidates a level to ask. -/
theorem length_candidates_le (start : ProtoId) (q : Request) :
    (ctx.candidates start q).length ≤ 1 + 3 * (ctx.realm.chain start).length := by
  have hlevels : ∀ levels : List Prototype,
      (levels.flatMap (ctx.levelCandidates q)).length ≤ 3 * levels.length := by
    intro levels
    induction levels with
    | nil => simp
    | cons level rest ih =>
      have hlevel := ctx.length_levelCandidates_le q level
      rw [List.flatMap_cons, List.length_append, List.length_cons]
      omega
  have hown : (ctx.ownMembers? q.this).toList.length ≤ 1 := by
    cases ctx.ownMembers? q.this <;> simp
  have hchain := hlevels (ctx.realm.chain start)
  simp only [candidates, List.length_append, List.length_map]
  omega

end Context

/-- Whatever a setup does, handles are positions and parents stand before their children, and they
stay what they were when they were defined. So the walk from any handle ends after its chain, and
with it the dispatch that asks along it and the collection of its keys. -/
theorem ancestry_of_history (base : Session.Base) (config : Config) (steps : List Registry.Step) :
    (∀ (i : Nat) (p : Prototype), (base.history config steps).prototypes[i]? = some p →
      p.id = .ofPosition i ∧ (i < ProtoId.count → p.id.index = i) ∧
      (∀ q, p.parent = some q → q.index < i) ∧
      ∀ later, ∃ p', (base.history config (steps ++ later)).prototypes[i]? = some p' ∧
        p'.id = p.id ∧ p'.parent = p.parent) ∧
    ∀ id : ProtoId,
      let realm := (base.history config steps).freeze
      let chain := realm.chain id
      (∀ levels, realm.Yields (some id) levels ↔ levels = chain) ∧
      (chain = [] ↔ realm.get? id = none) ∧
      (chain.map (·.id)).Nodup ∧
      chain.length ≤ id.index + 1 ∧
      (∀ p, chain.getLast? = some p → p.parent = none) ∧
      (∀ name, name ∈ realm.allKeys id ↔ ∃ p ∈ chain, name ∈ p.ownKeys) ∧
      ∀ (host : Host) (converter : Converter) (settings : Config) (q : Request),
        (Context.candidates ⟨realm, host, converter, settings⟩ id q).length ≤
          1 + 3 * (id.index + 1) := by
  have hplaced := base.ancestral_history config steps
  have hr := Registry.ordered_freeze hplaced
  refine ⟨?_, fun id => ?_⟩
  · intro i p hp
    have ho : (base.history config steps).outlines[i]? = some p.outline := by
      rw [Registry.getElem?_outlines, hp, Option.map_some]
    obtain ⟨hid, hparent⟩ := hplaced i _ ho
    have hindex : i < ProtoId.count → p.id.index = i := fun hlt =>
      (ProtoId.eq_ofPosition_iff hlt).1 hid
    refine ⟨hid, hindex, hparent, fun later => ?_⟩
    -- later steps only put outlines behind this one
    obtain ⟨added, hadded⟩ :=
      Registry.outlines_prefix_performAll (base.history config steps) later
    have hlater : (base.history config (steps ++ later)).outlines[i]? = some p.outline := by
      rw [Session.Base.history, Registry.performAll_append, ← Session.Base.history, ← hadded,
        List.getElem?_append_left (List.getElem?_eq_some_iff.1 ho).1]
      exact ho
    rw [Registry.getElem?_outlines] at hlater
    obtain ⟨p', hp', houtline⟩ := Option.map_eq_some_iff.1 hlater
    exact ⟨p', hp', congrArg (·.id) houtline, congrArg (·.parent) houtline⟩
  · have hwalk := hr.yields_chain id
    have hlength := hr.length_le hwalk (id.index + 1) (by
      intro q hq
      cases hq
      omega)
    refine ⟨fun levels => ⟨fun h => h.unique hwalk, fun h => h ▸ hwalk⟩,
      hr.chain_eq_nil_iff id, hr.nodup_chain id, hlength, hr.parent_getLast? hwalk, ?_, ?_⟩
    · intro name
      simp [Realm.allKeys]
    · intro host converter settings q
      have hcandidates := Context.length_candidates_le
        ⟨(base.history config steps).freeze, host, converter, settings⟩ id q
      exact Nat.le_trans hcandidates (Nat.add_le_add_left (Nat.mul_le_mul_left 3 hlength) 1)

end ScriptRealm
