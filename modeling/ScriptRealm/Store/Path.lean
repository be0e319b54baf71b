import ScriptRealm.Store

/-!
# Paths through the store

A walk that enters collections keeps the handles it is inside of. It ends, because each
collection is entered once on a path and the store has finitely many.
-/

namespace ScriptRealm

/-- A collection of either kind. -/
inductive Handle where
  | list (l : ListRef)
  | map (m : MapRef)
deriving DecidableEq, Repr

namespace Store

/-- All collections of a store. -/
def handles (s : Store) : List Handle :=
  (List.range s.lists.size).map (fun i => .list ⟨i⟩) ++
    (List.range s.maps.size).map (fun i => .map ⟨i⟩)

/-- The number of collections that a path has not entered. -/
def unvisited (s : Store) (path : List Handle) : Nat :=
  s.handles.countP fun h => !path.contains h

theorem countP_contains_cons_lt {h : Handle} {path handles : List Handle} (hm : h ∈ handles)
    (hp : path.contains h = false) :
    handles.countP (fun k => !(h :: path).contains k) <
      handles.countP fun k => !path.contains k := by
  induction handles with
  | nil => simp at hm
  | cons k r ih =>
    have mono : r.countP (fun k => !(h :: path).contains k) ≤
        r.countP fun k => !path.contains k := by
      apply List.countP_mono_left
      intro k _ hk
      simp_all
    by_cases hk : k = h
    · subst hk
      rw [List.countP_cons_of_neg (by simp), List.countP_cons_of_pos (by simp_all)]
      exact Nat.lt_succ_of_le mono
    · have hr : h ∈ r := by simpa [Ne.symm hk] using hm
      have := ih hr
      by_cases hc : path.contains k = true <;> simp_all

theorem list_mem_handles {s : Store} {l : ListRef} (h : l.index < s.lists.size) :
    Handle.list l ∈ s.handles := by
  simp only [handles, List.mem_append, List.mem_map, List.mem_range]
  exact .inl ⟨l.index, h, rfl⟩

theorem map_mem_handles {s : Store} {m : MapRef} (h : m.index < s.maps.size) :
    Handle.map m ∈ s.handles := by
  simp only [handles, List.mem_append, List.mem_map, List.mem_range]
  exact .inr ⟨m.index, h, rfl⟩

/-- Entering a list that is not on the path leaves fewer collections to enter. -/
theorem unvisited_list_lt {s : Store} {path : List Handle} {l : ListRef} {v : Value}
    (hv : v ∈ s.list l) (hp : path.contains (.list l) = false) :
    s.unvisited (.list l :: path) < s.unvisited path :=
  countP_contains_cons_lt (list_mem_handles (index_lt_of_mem_list hv)) hp

/-- Entering a map that is not on the path leaves fewer collections to enter. -/
theorem unvisited_map_lt {s : Store} {path : List Handle} {m : MapRef} {e : String × Value}
    (he : e ∈ (s.map m).entries) (hp : path.contains (.map m) = false) :
    s.unvisited (.map m :: path) < s.unvisited path :=
  countP_contains_cons_lt (map_mem_handles (index_lt_of_mem_map he)) hp

end Store

end ScriptRealm
