import Mathlib.Data.List.Induction
import Mathlib.Data.List.Nodup
import ScriptRealm.Proofs.Core
import ScriptRealm.Proofs.Setup.Ancestry

/-!
# Names of prototypes

A registry finds the last prototype of a name, and the realm that it is frozen to finds the first.
These are the same where all names differ. Definitions never take a name twice; the only way to do
so is to configure, for the generic host prototype, the name of another well-known prototype. So
names differ exactly if the configured name is none of those. A name then leads to the prototype
that has it as long as each position has a handle of its own.
-/

namespace ScriptRealm

/-! ## First and last positions -/

/-- A position of a name with none before it. -/
def FirstAt (names : List String) (name : String) (i : Nat) : Prop :=
  names[i]? = some name ∧ ∀ j, j < i → names[j]? ≠ some name

/-- A position of a name with none behind it. -/
def LastAt (names : List String) (name : String) (i : Nat) : Prop :=
  names[i]? = some name ∧ ∀ j, i < j → names[j]? ≠ some name

/-- The last name of a list stands last at its end. -/
theorem lastAt_concat_self {names : List String} {name : String} {i : Nat} :
    LastAt (names ++ [name]) name i ↔ i = names.length := by
  constructor
  · rintro ⟨hi, hlast⟩
    have hlt := (List.getElem?_eq_some_iff.1 hi).1
    by_cases hend : i < names.length
    · exact absurd (by simp) (hlast names.length hend)
    · simp at hlt
      omega
  · rintro rfl
    refine ⟨by simp, fun j hj => ?_⟩
    rw [List.getElem?_eq_none (by simp; omega)]
    simp

/-- Other names stand last where they stood last before. -/
theorem lastAt_concat_of_ne {names : List String} {name other : String} {i : Nat}
    (hne : other ≠ name) : LastAt (names ++ [name]) other i ↔ LastAt names other i := by
  have hget : ∀ j : Nat, (names ++ [name])[j]? = some other ↔ names[j]? = some other := by
    intro j
    rcases Nat.lt_trichotomy j names.length with hlt | rfl | hgt
    · rw [List.getElem?_append_left hlt]
    · simp [hne.symm]
    · rw [List.getElem?_eq_none (by simp; omega), List.getElem?_eq_none (by omega)]
  simp only [LastAt, hget, ne_eq]

/-- A name that is there has a last position. -/
theorem exists_lastAt {names : List String} {name : String} (h : name ∈ names) :
    ∃ i, LastAt names name i := by
  induction names using List.reverseRecOn with
  | nil => simp at h
  | append_singleton names other ih =>
    by_cases hname : name = other
    · subst hname
      exact ⟨names.length, lastAt_concat_self.2 rfl⟩
    · obtain ⟨i, hi⟩ := ih (by simpa [hname] using h)
      exact ⟨i, (lastAt_concat_of_ne hname).2 hi⟩

section Distinct

variable {names : List String} (h : names.Nodup)
include h

/-- Where names differ, a name has one position. -/
theorem eq_of_getElem?_eq {name : String} {i j : Nat} (hi : names[i]? = some name)
    (hj : names[j]? = some name) : i = j := by
  have hlt := (List.getElem?_eq_some_iff.1 hi).1
  exact (List.getElem?_inj hlt h).1 (hi.trans hj.symm)

/-- Where no name stands twice, the first place of a name is its only place, and so is the last. -/
theorem firstAt_iff {name : String} {i : Nat} : FirstAt names name i ↔ names[i]? = some name := by
  refine ⟨fun hfirst => hfirst.1, fun hi => ⟨hi, fun j hj hname => ?_⟩⟩
  have heq := eq_of_getElem?_eq h hi hname
  omega

theorem lastAt_iff {name : String} {i : Nat} : LastAt names name i ↔ names[i]? = some name := by
  refine ⟨fun hlast => hlast.1, fun hi => ⟨hi, fun j hj hname => ?_⟩⟩
  have heq := eq_of_getElem?_eq h hi hname
  omega

end Distinct

namespace Registry

/-! ## Where names lead -/

theorem prototypeNames_eq (r : Registry) : r.prototypeNames = r.outlines.map (·.name) := by
  rw [prototypeNames, outlines, List.map_map]
  rfl

/-- The name at a position is that of the prototype there. -/
theorem getElem?_prototypeNames (r : Registry) (i : Nat) :
    r.prototypeNames[i]? = r.prototypes[i]?.map (·.name) := by
  simp [prototypeNames]

theorem prototypeNames_push (r : Registry) (name : String) (kind : ProtoKind)
    (parent : Option ProtoId) :
    (r.push name kind parent).prototypeNames = r.prototypeNames ++ [name] := by
  rw [prototypeNames_eq, prototypeNames_eq, outlines_push, List.map_append, List.map_singleton]

/-- Every name leads to the handle of the last prototype that has it. -/
def Indexed (r : Registry) : Prop :=
  ∀ name id, r.find? name = some id ↔ ∃ i, LastAt r.prototypeNames name i ∧ id = .ofPosition i

/-- The index of names has those that the prototypes have. -/
theorem contains_iff {r : Registry} (h : r.Indexed) (name : String) :
    r.names.contains name = true ↔ name ∈ r.prototypeNames := by
  have hfound : r.names.contains name = true ↔ ∃ id, r.find? name = some id :=
    Option.isSome_iff_exists
  rw [hfound]
  constructor
  · rintro ⟨id, hid⟩
    obtain ⟨i, hlast, -⟩ := (h name id).1 hid
    exact List.mem_of_getElem? hlast.1
  · intro hmem
    obtain ⟨i, hi⟩ := exists_lastAt hmem
    exact ⟨.ofPosition i, (h name _).2 ⟨i, hi, rfl⟩⟩

/-- A new name is bound to the place where it then stands last. -/
theorem indexed_push {r : Registry} (h : r.Indexed) (name : String) (kind : ProtoKind)
    (parent : Option ProtoId) : (r.push name kind parent).Indexed := by
  intro other id
  have hlength : r.prototypeNames.length = r.prototypes.size := by simp [prototypeNames]
  rw [prototypeNames_push]
  by_cases hother : other = name
  · subst hother
    have hfind : (r.push other kind parent).find? other = some r.nextId :=
      r.names.find?_insert_self other _
    simp only [hfind, lastAt_concat_self, hlength, Option.some.injEq, exists_eq_left]
    exact eq_comm
  · have hfind : (r.push name kind parent).find? other = r.find? other :=
      r.names.find?_insert_of_ne _ hother
    simp only [hfind, lastAt_concat_of_ne hother, h other id]

theorem Indexed.of_names_eq {r r' : Registry} (h : r.Indexed) (hnames : r'.names = r.names)
    (hprototypes : r'.prototypeNames = r.prototypeNames) : r'.Indexed := by
  intro name id
  rw [find?, hnames, hprototypes]
  exact h name id

/-- No step of a setup parts the index from the arena. -/
theorem indexed_perform {r : Registry} (h : r.Indexed) (step : Step) :
    (r.perform step).Indexed := by
  rcases perform_cases r step with ⟨name, kind, parent, -, hstep⟩ | ⟨houtlines, hnames⟩
  · rw [hstep]
    exact indexed_push h name kind parent
  · refine h.of_names_eq hnames ?_
    rw [prototypeNames_eq, houtlines, ← prototypeNames_eq]

theorem indexed_performAll {r : Registry} (h : r.Indexed) (steps : List Step) :
    (r.performAll steps).Indexed := by
  induction steps generalizing r with
  | nil => exact h
  | cons step rest ih => exact ih (indexed_perform h step)

theorem indexed_bare (hostObjectName : String) : (bare hostObjectName).Indexed := by
  unfold bare
  -- the well-known prototypes are pushed onto a registry without names
  iterate 7 apply indexed_push
  intro name id
  simp [find?, prototypeNames, LastAt]

/-- The built-in members leave the names as they are. -/
theorem names_core (hostObjectName : String) :
    (core hostObjectName).names = (bare hostObjectName).names := by
  simp only [core, Builtin.roles, List.foldl, Builtin.install]

/-- The realm finds the first prototype of a name. -/
theorem find?_freeze {r : Registry} (h : Ancestral r.outlines) (name : String) (id : ProtoId) :
    r.freeze.find? name = some id ↔ ∃ i, FirstAt r.prototypeNames name i ∧ id = .ofPosition i := by
  have hid : ∀ (i : Nat) (p : Prototype), r.prototypes[i]? = some p → p.id = .ofPosition i := by
    intro i p hp
    have ho : r.outlines[i]? = some p.outline := by
      rw [getElem?_outlines, hp, Option.map_some]
    exact (h i _ ho).1
  have hfind : r.freeze.find? name = (r.prototypes.find? (·.name == name)).map (·.id) := rfl
  rw [hfind, Option.map_eq_some_iff]
  constructor
  · rintro ⟨p, hp, rfl⟩
    obtain ⟨hname, i, hi, rfl, hbefore⟩ := Array.find?_eq_some_iff_getElem.1 hp
    refine ⟨i, ⟨?_, fun j hj hj' => ?_⟩, hid i _ (Array.getElem?_eq_getElem hi)⟩
    · simpa [getElem?_prototypeNames, hi] using hname
    · have hlt : j < r.prototypes.size := Nat.lt_trans hj hi
      have hother : r.prototypes[j].name = name := by
        simpa [getElem?_prototypeNames, hlt] using hj'
      simpa [hother] using hbefore j hj
  · rintro ⟨i, ⟨hname, hbefore⟩, rfl⟩
    rw [getElem?_prototypeNames] at hname
    obtain ⟨p, hp, hpname⟩ := Option.map_eq_some_iff.1 hname
    obtain ⟨hlt, hget⟩ := Array.getElem?_eq_some_iff.1 hp
    refine ⟨p, Array.find?_eq_some_iff_getElem.2 ⟨by simpa using hpname, i, hlt, hget, ?_⟩,
      hid i p hp⟩
    intro j hj
    have hj' := hbefore j hj
    simpa [getElem?_prototypeNames, Nat.lt_trans hj hlt] using hj'

/-- A name leads to the prototype that has it, whichever that is. -/
def FindsByName (r : Registry) : Prop :=
  ∀ name id, r.find? name = some id ↔ ∃ p, r.get? id = some p ∧ p.name = name

/-- The prototype of a handle has a name if the name stands at the position of the handle. -/
theorem hasName_iff (r : Registry) (name : String) (id : ProtoId) :
    (∃ p, r.get? id = some p ∧ p.name = name) ↔ r.prototypeNames[id.index]? = some name := by
  rw [getElem?_prototypeNames, Option.map_eq_some_iff]
  rfl

/-! ## Where names differ -/

/-- A definition takes a free name, so that names that differ go on to differ. -/
theorem nodup_perform {r : Registry} (h : r.Indexed) (hnodup : r.prototypeNames.Nodup)
    (step : Step) : (r.perform step).prototypeNames.Nodup := by
  rcases perform_cases r step with ⟨name, kind, parent, hfree, hstep⟩ | ⟨houtlines, -⟩
  · rw [hstep, prototypeNames_push]
    refine List.nodup_append_comm.1 (List.nodup_cons.2 ⟨fun hmem => ?_, hnodup⟩)
    rw [(contains_iff h name).2 hmem] at hfree
    cases hfree
  · rw [prototypeNames_eq, houtlines, ← prototypeNames_eq]
    exact hnodup

/-- Names that differ go on to do so. -/
theorem nodup_performAll {r : Registry} (h : r.Indexed) (hnodup : r.prototypeNames.Nodup)
    (steps : List Step) : (r.performAll steps).prototypeNames.Nodup := by
  induction steps generalizing r with
  | nil => exact hnodup
  | cons step rest ih => exact ih (indexed_perform h step) (nodup_perform h hnodup step)

section

variable {r : Registry} (h : r.Indexed) (hnodup : r.prototypeNames.Nodup)
include h hnodup

/-- With distinct names, and handles for all of them, a name leads to its prototype. -/
theorem findsByName_of_nodup (hsize : r.prototypes.size ≤ ProtoId.count) : r.FindsByName := by
  intro name id
  rw [h, hasName_iff]
  constructor
  · rintro ⟨i, hlast, rfl⟩
    have hlt : i < r.prototypeNames.length := (List.getElem?_eq_some_iff.1 hlast.1).1
    rw [prototypeNames, List.length_map, Array.length_toList] at hlt
    rw [ProtoId.index_ofPosition_of_lt (Nat.lt_of_lt_of_le hlt hsize)]
    exact hlast.1
  · intro hname
    exact ⟨id.index, (lastAt_iff hnodup).2 hname, id.ofPosition_index.symm⟩

/-- The prototype behind the last handle has the first handle again, and the first prototype has
another name. -/
theorem not_findsByName_of_crowded (hsize : ProtoId.count < r.prototypes.size) :
    ¬r.FindsByName := by
  intro hfinds
  have hname := (r.getElem?_prototypeNames ProtoId.count).trans
    (congrArg (Option.map (·.name)) (Array.getElem?_eq_getElem hsize))
  obtain ⟨name, hname⟩ : ∃ name, r.prototypeNames[ProtoId.count]? = some name := ⟨_, hname⟩
  have hfind := (h name _).2 ⟨ProtoId.count, (lastAt_iff hnodup).2 hname, rfl⟩
  have hfirst := (r.hasName_iff name _).1 ((hfinds name _).1 hfind)
  rw [ProtoId.index_ofPosition, Nat.mod_self] at hfirst
  have heq := eq_of_getElem?_eq hnodup hfirst hname
  cases heq

/-- With distinct names, the scan of the realm meets the prototype that the index has. -/
theorem find?_freeze_of_nodup (hplaced : Ancestral r.outlines) (name : String) :
    r.freeze.find? name = r.find? name := by
  apply Option.ext
  intro id
  simp only [find?_freeze hplaced, h name id, firstAt_iff hnodup, lastAt_iff hnodup]

end

/-! ## Where a name is taken twice -/

/-- A definition takes a free name, so the last prototype of a name stays the last. -/
theorem lastAt_perform {r : Registry} (h : r.Indexed) {name : String} {i : Nat}
    (hlast : LastAt r.prototypeNames name i) (step : Step) :
    LastAt (r.perform step).prototypeNames name i := by
  rcases perform_cases r step with ⟨other, kind, parent, hfree, hstep⟩ | ⟨houtlines, -⟩
  · have hother : name ≠ other := by
      rintro rfl
      rw [(contains_iff h name).2 (List.mem_of_getElem? hlast.1)] at hfree
      cases hfree
    rw [hstep, prototypeNames_push, lastAt_concat_of_ne hother]
    exact hlast
  · rw [prototypeNames_eq, houtlines, ← prototypeNames_eq]
    exact hlast

theorem lastAt_performAll {r : Registry} (h : r.Indexed) {name : String} {i : Nat}
    (hlast : LastAt r.prototypeNames name i) (steps : List Step) :
    LastAt (r.performAll steps).prototypeNames name i := by
  induction steps generalizing r with
  | nil => exact hlast
  | cons step rest ih => exact ih (indexed_perform h step) (lastAt_perform h hlast step)

section Twice

variable {r : Registry} {name : String} {i j : Nat} (hij : i < j)
  (hi : r.prototypeNames[i]? = some name)
include hij hi

/-- A name that two prototypes have is twice among the names. -/
theorem not_nodup_of_twice (hj : r.prototypeNames[j]? = some name) : ¬r.prototypeNames.Nodup := by
  intro hnodup
  have heq := eq_of_getElem?_eq hnodup hi hj
  omega

variable (hcount : j < ProtoId.count)
include hcount

theorem not_findsByName_of_twice (hj : r.prototypeNames[j]? = some name) : ¬r.FindsByName := by
  intro hfinds
  have hfind : ∀ k, k < ProtoId.count → r.prototypeNames[k]? = some name →
      r.find? name = some (.ofPosition k) := by
    intro k hk hname
    rw [hfinds, hasName_iff, ProtoId.index_ofPosition_of_lt hk]
    exact hname
  have hsame := (hfind i (Nat.lt_trans hij hcount) hi).symm.trans (hfind j hcount hj)
  have hindex := congrArg ProtoId.index (Option.some.inj hsame)
  rw [ProtoId.index_ofPosition_of_lt (Nat.lt_trans hij hcount),
    ProtoId.index_ofPosition_of_lt hcount] at hindex
  omega

/-- The registry finds the last prototype of the name, and the realm does not. -/
theorem find?_freeze_ne_of_twice (h : r.Indexed) (hplaced : Ancestral r.outlines)
    (hlast : LastAt r.prototypeNames name j) : r.freeze.find? name ≠ r.find? name := by
  intro heq
  rw [(h name _).2 ⟨j, hlast, rfl⟩, find?_freeze hplaced] at heq
  obtain ⟨first, hfirst, hid⟩ := heq
  have hle : ¬i < first := fun hlt => hfirst.2 i hlt hi
  rw [eq_comm, ProtoId.eq_ofPosition_iff hcount, ProtoId.index_ofPosition_of_lt (by omega)] at hid
  omega

end Twice

end Registry

/-! ## The configured name -/

/-- The names of the well-known prototypes that no configuration changes. -/
def Builtin.fixedNames : List String :=
  ["Object", "Array", "String", "Number", "Boolean", "Class"]

theorem Registry.prototypeNames_bare (hostObjectName : String) :
    (bare hostObjectName).prototypeNames = Builtin.fixedNames ++ [hostObjectName] := by
  simp [prototypeNames, Builtin.prototypes_bare, Builtin.roles, Builtin.barePrototype,
    Builtin.roleName, Builtin.fixedNames]

namespace Session.Base

variable (base : Session.Base) (config : Config) (steps : List Registry.Step)

theorem outlines_registry :
    (base.registry config).outlines = (Registry.bare config.hostObjectName).outlines := by
  unfold Session.Base.registry
  cases base with
  | core => exact Registry.outlines_core config.hostObjectName
  | _ => rfl

theorem prototypeNames_registry :
    (base.registry config).prototypeNames = Builtin.fixedNames ++ [config.hostObjectName] := by
  rw [Registry.prototypeNames_eq, outlines_registry, ← Registry.prototypeNames_eq,
    Registry.prototypeNames_bare]

/-- Both kinds of registry begin with the same index, since members are not in it. -/
theorem names_registry :
    (base.registry config).names = (Registry.bare config.hostObjectName).names := by
  unfold Session.Base.registry
  cases base with
  | core => exact Registry.names_core config.hostObjectName
  | _ => rfl

theorem indexed_history : (base.history config steps).Indexed := by
  apply Registry.indexed_performAll
  have hbare := Registry.indexed_bare config.hostObjectName
  refine hbare.of_names_eq (names_registry base config) ?_
  rw [prototypeNames_registry, Registry.prototypeNames_bare]

/-- The names of the well-known prototypes stay in their places. -/
theorem getElem?_prototypeNames_history {i : Nat} {name : String}
    (h : (Builtin.fixedNames ++ [config.hostObjectName])[i]? = some name) :
    (base.history config steps).prototypeNames[i]? = some name := by
  obtain ⟨added, hadded⟩ := Registry.outlines_prefix_performAll (base.registry config) steps
  rw [← prototypeNames_registry base config, Registry.prototypeNames_eq] at h
  rw [history, Registry.prototypeNames_eq, ← hadded, List.map_append,
    List.getElem?_append_left (List.getElem?_eq_some_iff.1 h).1]
  exact h

/-- Unless a fixed name is configured, all names differ after any setup. -/
theorem nodup_history (h : config.hostObjectName ∉ Builtin.fixedNames) :
    (base.history config steps).prototypeNames.Nodup := by
  -- before the first step, the registry is the history of no steps
  have hindexed : (base.registry config).Indexed := base.indexed_history config []
  apply Registry.nodup_performAll hindexed
  rw [prototypeNames_registry]
  have hfixed : Builtin.fixedNames.Nodup := by decide
  exact List.nodup_append_comm.1 (List.nodup_cons.2 ⟨h, hfixed⟩)

/-- A configured name that is not free is that of two prototypes, and no later one takes it. -/
theorem exists_twice (h : config.hostObjectName ∈ Builtin.fixedNames) :
    ∃ i, i < 6 ∧ (base.history config steps).prototypeNames[i]? = some config.hostObjectName ∧
      LastAt (base.history config steps).prototypeNames config.hostObjectName 6 := by
  obtain ⟨i, hi, hname⟩ := List.getElem_of_mem h
  refine ⟨i, hi, getElem?_prototypeNames_history base config steps ?_, ?_⟩
  · rw [List.getElem?_append_left hi, List.getElem?_eq_getElem hi, hname]
  · have hindexed : (base.registry config).Indexed := base.indexed_history config []
    apply Registry.lastAt_performAll hindexed
    rw [prototypeNames_registry]
    exact lastAt_concat_self.2 rfl

end Session.Base

/-- After any setup, all names differ exactly if the configured name of the generic host prototype
is not that of another well-known prototype, and exactly then the realm finds by name what the
registry did. A name leads to the prototype that has it exactly if, besides, there are no more
prototypes than handles. -/
theorem names_identify_iff (base : Session.Base) (config : Config) (steps : List Registry.Step) :
    let r := base.history config steps
    let free := config.hostObjectName ∉ Builtin.fixedNames
    (r.prototypeNames.Nodup ↔ free) ∧
      (r.FindsByName ↔ free ∧ r.prototypes.size ≤ ProtoId.count) ∧
      ((∀ name, r.freeze.find? name = r.find? name) ↔ free) := by
  intro r free
  have hindexed : r.Indexed := base.indexed_history config steps
  have hplaced : Ancestral r.outlines := base.ancestral_history config steps
  by_cases hfree : config.hostObjectName ∈ Builtin.fixedNames
  · obtain ⟨i, hlt, hi, hlast⟩ := base.exists_twice config steps hfree
    have hnot : ¬free := not_not_intro hfree
    have hcount : 6 < ProtoId.count := by decide
    have hfrozen := Registry.find?_freeze_ne_of_twice hlt hi hcount hindexed hplaced hlast
    exact ⟨iff_of_false (Registry.not_nodup_of_twice hlt hi hlast.1) hnot,
      iff_of_false (Registry.not_findsByName_of_twice hlt hi hcount hlast.1) fun h => hnot h.1,
      iff_of_false (fun hsame => hfrozen (hsame _)) hnot⟩
  · have hnodup : r.prototypeNames.Nodup := base.nodup_history config steps hfree
    refine ⟨iff_of_true hnodup hfree, ⟨fun hfinds => ⟨hfree, ?_⟩, fun h => ?_⟩,
      iff_of_true (Registry.find?_freeze_of_nodup hindexed hnodup hplaced) hfree⟩
    · exact Nat.not_lt.1 fun hcrowded =>
        Registry.not_findsByName_of_crowded hindexed hnodup hcrowded hfinds
    · exact Registry.findsByName_of_nodup hindexed hnodup h.2

/-- With the name of the root configured for host objects, two prototypes have it; the registry
finds the later one, and the realm the root. -/
theorem root_name_configured_twice :
    let r := Session.Base.bare.history { hostObjectName := "Object" } []
    ¬r.prototypeNames.Nodup ∧ r.find? "Object" = some ⟨6⟩ ∧ ¬r.FindsByName ∧
      r.freeze.find? "Object" = some ⟨0⟩ := by
  intro r
  have hfirst : r.prototypeNames[0]? = some "Object" := rfl
  have hsecond : r.prototypeNames[6]? = some "Object" := rfl
  exact ⟨Registry.not_nodup_of_twice (by decide) hfirst hsecond, rfl,
    Registry.not_findsByName_of_twice (by decide) hfirst (by decide) hsecond, rfl⟩

end ScriptRealm
