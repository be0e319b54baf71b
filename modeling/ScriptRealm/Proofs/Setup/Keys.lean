import ScriptRealm.Proofs.Core
import ScriptRealm.Proofs.Setup.History

/-!
# Own keys

A prototype may remember its own keys. In every registry that a setup can reach, what a prototype
remembers are the names in its tables, so that asking for its own keys is reading them off the
tables. The names come as the one ascending list that has them.
-/

namespace ScriptRealm

/-! ## Ascending lists of names -/

namespace KeySet

/-- Names in ascending order, each once. -/
def Ascending (keys : List String) : Prop :=
  keys.Pairwise (· < ·)

/-- A name goes to its place in the order, and is not put in twice. -/
theorem ascending_insert {keys : List String} (h : Ascending keys) (name : String) :
    Ascending (insert name keys) := by
  induction keys with
  | nil => exact List.pairwise_singleton _ _
  | cons k rest ih =>
    obtain ⟨hk, hrest⟩ := List.pairwise_cons.1 h
    rw [insert]
    split
    · rename_i hlt
      refine List.pairwise_cons.2 ⟨fun k' hk' => ?_, h⟩
      rcases List.mem_cons.1 hk' with rfl | hk'
      · exact hlt
      · exact String.lt_trans hlt (hk k' hk')
    · split
      · exact h
      · rename_i hnlt hne
        refine List.pairwise_cons.2 ⟨fun k' hk' => ?_, ih hrest⟩
        rcases mem_insert.1 hk' with rfl | hk'
        · exact Std.lt_of_le_of_ne (String.not_lt.1 hnlt) (Ne.symm hne)
        · exact hk k' hk'

/-- Collected one by one, names come out in ascending order. -/
theorem ascending_ofList (names : List String) : Ascending (ofList names) := by
  induction names with
  | nil => exact List.Pairwise.nil
  | cons name rest ih => exact ascending_insert ih name

/-- Ascending lists of the same names are equal. -/
theorem Ascending.ext {keys keys' : List String} (h : Ascending keys) (h' : Ascending keys')
    (hmem : ∀ k, k ∈ keys ↔ k ∈ keys') : keys = keys' := by
  have hnodup : ∀ {l : List String}, Ascending l → l.Nodup := by
    intro l hl
    refine List.Pairwise.imp ?_ hl
    rintro a b hlt rfl
    exact String.lt_irrefl a hlt
  have hperm := (List.perm_ext_iff_of_nodup (hnodup h) (hnodup h')).2 hmem
  exact hperm.eq_of_pairwise (fun a b _ _ hab hba => absurd hba (String.lt_asymm hab)) h h'

end KeySet

/-! ## What holds of every prototype -/

/-- What holds of new prototypes, and is kept by giving them members, by edits, and by remembering
keys. -/
structure Prototype.Invariant (good : Prototype → Prop) : Prop where
  make : ∀ id name kind parent, good (.make id name kind parent)
  install : ∀ p m, good p → good (p.install m)
  after : ∀ p e, good p → good (p.after e)
  cacheKeys : ∀ p, good p → good p.cacheKeys

namespace Registry

variable {good : Prototype → Prop} {r : Registry}

/-- What holds of all prototypes is kept by changing one of them so that it holds of the changed
one. -/
theorem forall_modify (h : ∀ p ∈ r.prototypes, good p) (id : ProtoId) {f : Prototype → Prototype}
    (hf : ∀ p, good p → good (f p)) : ∀ p ∈ (r.modify id f).prototypes, good p := by
  intro p hp
  obtain ⟨i, hi⟩ := Array.mem_iff_getElem?.1 hp
  rw [modify, Array.getElem?_modify] at hi
  split at hi
  · obtain ⟨p', hp', rfl⟩ := Option.map_eq_some_iff.1 hi
    exact hf p' (h p' (Array.mem_of_getElem? hp'))
  · exact h p (Array.mem_of_getElem? hi)

variable (hgood : Prototype.Invariant good)
include hgood

/-- A new prototype is as good as those that are there. -/
theorem forall_push (h : ∀ p ∈ r.prototypes, good p) (name : String) (kind : ProtoKind)
    (parent : Option ProtoId) : ∀ p ∈ (r.push name kind parent).prototypes, good p := by
  intro p hp
  rcases Array.mem_push.1 hp with hp | rfl
  · exact h p hp
  · exact hgood.make _ _ _ _

theorem forall_perform (h : ∀ p ∈ r.prototypes, good p) (step : Step) :
    ∀ p ∈ (r.perform step).prototypes, good p := by
  rcases step with ⟨name, kind, parent⟩ | ⟨id, e⟩ | ⟨id⟩
  · rcases r.perform_define name kind parent with hstep | hstep
    · rwa [hstep]
    · rw [hstep]
      exact forall_push hgood h name kind parent
  · rw [perform_edit]
    exact forall_modify h id fun p hp => hgood.after p e hp
  · rw [perform_ownKeys]
    exact forall_modify h id hgood.cacheKeys

/-- It is kept through a whole setup. -/
theorem forall_performAll (h : ∀ p ∈ r.prototypes, good p) (steps : List Step) :
    ∀ p ∈ (r.performAll steps).prototypes, good p := by
  induction steps generalizing r with
  | nil => exact h
  | cons step rest ih => exact ih (forall_perform hgood h step)

theorem forall_bare (hostObjectName : String) :
    ∀ p ∈ (bare hostObjectName).prototypes, good p := by
  unfold bare
  iterate 7 apply forall_push hgood
  simp

theorem forall_install (h : ∀ p ∈ r.prototypes, good p) (role : Role) :
    ∀ p ∈ (Builtin.install r role).prototypes, good p :=
  forall_modify h (r.wellKnown.of role) fun p hp => hgood.install p _ hp

/-- It holds of the well-known prototypes with their members, which are registered in the same way.
-/
theorem forall_core (hostObjectName : String) :
    ∀ p ∈ (core hostObjectName).prototypes, good p := by
  have hroles : ∀ (roles : List Role) (r : Registry), (∀ p ∈ r.prototypes, good p) →
      ∀ p ∈ (roles.foldl Builtin.install r).prototypes, good p := by
    intro roles
    induction roles with
    | nil => exact fun r h => h
    | cons role rest ih => exact fun r h => ih _ (forall_install hgood h role)
  exact hroles Builtin.roles _ (forall_bare hgood hostObjectName)

end Registry

/-- An invariant of prototypes holds of every prototype of every setup. -/
theorem Prototype.Invariant.history {good : Prototype → Prop} (hgood : Prototype.Invariant good)
    (base : Session.Base) (config : Config) (steps : List Registry.Step) :
    ∀ p ∈ (base.history config steps).prototypes, good p := by
  refine Registry.forall_performAll hgood ?_ steps
  cases base with
  | core => exact Registry.forall_core hgood _
  | bare => exact Registry.forall_bare hgood _
  | standard => exact Registry.forall_bare hgood _

/-- What holds of the well-known prototypes of every setup before its first step. -/
theorem Session.Base.forall_registry (base : Session.Base) (config : Config)
    {good : Prototype → Prop}
    (hbare : ∀ role, good (Builtin.barePrototype config.hostObjectName role))
    (hinstall : ∀ p m, good p → good (p.install m)) :
    ∀ p ∈ (base.registry config).prototypes, good p := by
  intro p hp
  unfold registry at hp
  cases base with
  | core =>
    simp only [Builtin.prototypes_core, List.mem_toArray] at hp
    obtain ⟨role, -, rfl⟩ := List.mem_map.1 hp
    exact hinstall _ _ (hbare role)
  | bare | standard =>
    simp only [Builtin.prototypes_bare, List.mem_toArray] at hp
    obtain ⟨role, -, rfl⟩ := List.mem_map.1 hp
    exact hbare role

/-! ## Remembered keys -/

namespace Prototype

/-- What a prototype remembers as its own keys are the names in its tables. -/
def Coherent (p : Prototype) : Prop :=
  ∀ keys, p.keyCache = some keys → keys = p.tableKeys

/-- Cached or not, the keys are those of the tables. -/
theorem Coherent.ownKeys_eq {p : Prototype} (h : p.Coherent) : p.ownKeys = p.tableKeys := by
  rw [ownKeys]
  cases hcache : p.keyCache with
  | none => rfl
  | some keys => exact h keys hcache

/-- A member that changes the names forgets the keys. -/
theorem Coherent.after {p : Prototype} (h : p.Coherent) (e : Edit) : (p.after e).Coherent := by
  cases e with
  | property | function => exact fun keys hkeys => nomatch hkeys
  | setConstructor a =>
    rw [after_setConstructor]
    exact h
  | setCapability c =>
    rw [after_setCapability]
    exact h
  | setView view supplier => cases view <;> exact h
  | _ => exact h

/-- Filling the cache keeps it coherent. -/
theorem Coherent.cacheKeys {p : Prototype} (h : p.Coherent) : p.cacheKeys.Coherent := by
  intro keys hkeys
  rw [← Option.some.inj hkeys]
  exact h.ownKeys_eq

/-- No setup makes a cache incoherent. -/
theorem invariant_coherent : Invariant Coherent where
  make id name kind parent keys hkeys := by cases parent <;> cases hkeys
  install p m _ keys hkeys := nomatch hkeys
  after _ e h := h.after e
  cacheKeys _ h := h.cacheKeys

end Prototype

/-- In every setup, the own keys of a prototype are the names in its tables. -/
theorem Session.Base.ownKeys_history (base : Session.Base) (config : Config)
    (steps : List Registry.Step) :
    ∀ p ∈ (base.history config steps).prototypes, p.ownKeys = p.tableKeys :=
  fun p hp => (Prototype.invariant_coherent.history base config steps p hp).ownKeys_eq

end ScriptRealm
