import ScriptRealm.Assoc
import ScriptRealm.Value

/-!
# The store

The shared, mutable collections: lists are sequences of values, and maps are ordered associations.
A handle that the store does not know reads as an empty collection, and writing through it changes
nothing.
-/

namespace ScriptRealm

/-- The contents of all lists and of all maps. A handle is the position of its content. -/
structure Store where
  lists : Array (List Value)
  maps : Array (Assoc Value)
deriving Inhabited

namespace Store

/-- A store without collections. -/
def empty : Store := ⟨#[], #[]⟩

/-! ## Lists -/

/-- The content of a list. -/
def list (s : Store) (l : ListRef) : List Value :=
  s.lists[l.index]?.getD []

/-- A store with one more list, and the handle on it. -/
def newList (s : Store) (items : List Value) : ListRef × Store :=
  (⟨s.lists.size⟩, { s with lists := s.lists.push items })

/-- Replaces the content of a list. -/
def setList (s : Store) (l : ListRef) (items : List Value) : Store :=
  { s with lists := s.lists.setIfInBounds l.index items }

/-! ## Maps -/

/-- The content of a map. -/
def map (s : Store) (m : MapRef) : Assoc Value :=
  s.maps[m.index]?.getD ∅

/-- A store with one more map, and the handle on it. -/
def newMap (s : Store) (entries : Assoc Value) : MapRef × Store :=
  (⟨s.maps.size⟩, { s with maps := s.maps.push entries })

/-- Replaces the content of a map. -/
def setMap (s : Store) (m : MapRef) (entries : Assoc Value) : Store :=
  { s with maps := s.maps.setIfInBounds m.index entries }

/-! ## Reading after writing -/

variable (s : Store)

theorem list_setList_self {l : ListRef} (h : l.index < s.lists.size) (items : List Value) :
    (s.setList l items).list l = items := by
  simp [list, setList, h]

theorem list_setList_of_ne {l k : ListRef} (h : k ≠ l) (items : List Value) :
    (s.setList l items).list k = s.list k := by
  have hi : l.index ≠ k.index := fun q => h (by cases k; cases l; simp_all)
  simp [list, setList, hi]

@[simp] theorem list_setMap (m : MapRef) (entries : Assoc Value) (l : ListRef) :
    (s.setMap m entries).list l = s.list l := rfl

theorem map_setMap_self {m : MapRef} (h : m.index < s.maps.size) (entries : Assoc Value) :
    (s.setMap m entries).map m = entries := by
  simp [map, setMap, h]

@[simp] theorem map_setList (l : ListRef) (items : List Value) (m : MapRef) :
    (s.setList l items).map m = s.map m := rfl

/-- A fresh list holds its items, and lists that were there before hold theirs. -/
@[simp] theorem list_newList_self (items : List Value) :
    (s.newList items).2.list (s.newList items).1 = items := by
  simp [list, newList]

theorem list_newList_of_lt {l : ListRef} (h : l.index < s.lists.size) (items : List Value) :
    (s.newList items).2.list l = s.list l := by
  simp [list, newList, Array.getElem?_push, Nat.ne_of_lt h]

/-- A collection that holds something is one that was made. -/
theorem index_lt_of_mem_list {s : Store} {l : ListRef} {v : Value} (h : v ∈ s.list l) :
    l.index < s.lists.size := by
  by_cases hl : l.index < s.lists.size
  · exact hl
  · simp [list, hl] at h

theorem index_lt_of_mem_map {s : Store} {m : MapRef} {e : String × Value}
    (h : e ∈ (s.map m).entries) : m.index < s.maps.size := by
  by_cases hm : m.index < s.maps.size
  · exact hm
  · simp [map, hm] at h

end Store

end ScriptRealm
