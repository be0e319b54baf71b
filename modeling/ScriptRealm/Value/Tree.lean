import ScriptRealm.Store.Path

/-!
# Unfolded values

A value with the content of its collections in place of the handles. Where a collection contains
itself, the tree holds the position of the enclosing collection instead.
-/

namespace ScriptRealm

/-- An unfolded value. -/
inductive Tree where
  | undefined
  | null
  | boolean (b : Bool)
  | char (c : Char)
  | string (s : String)
  | number (n : Number)
  | list (items : List Tree)
  | map (entries : List (String × Tree))
  | iterable
  | hostClass (name : String)
  | pair (first second : Tree)
  | object (typeName : String)
  /-- a list that encloses this place; the outermost enclosing collection has position 0 -/
  | enclosingList (position : Nat)
  /-- a map that encloses this place -/
  | enclosingMap (position : Nat)
deriving Inhabited

/-- The position of a collection on a path, counted from the outermost one. -/
def pathPosition (path : List Handle) (h : Handle) : Nat :=
  path.reverse.idxOf h

/-- Unfolds a value inside the collections of `path`. -/
def Store.unfoldAt (s : Store) (path : List Handle) : Value → Tree
  | .undefined => .undefined
  | .null => .null
  | .boolean b => .boolean b
  | .char c => .char c
  | .string t => .string t
  | .number n => .number n
  | .list l =>
    if _h : path.contains (.list l) then .enclosingList (pathPosition path (.list l))
    else .list ((s.list l).attach.map fun ⟨v, _⟩ => s.unfoldAt (.list l :: path) v)
  | .map m =>
    if _h : path.contains (.map m) then .enclosingMap (pathPosition path (.map m))
    else .map ((s.map m).entries.attach.map fun ⟨e, _⟩ => (e.1, s.unfoldAt (.map m :: path) e.2))
  | .iterable _ => .iterable
  | .hostClass name => .hostClass name
  | .pair a b => .pair (s.unfoldAt path a) (s.unfoldAt path b)
  | .object o => .object o.typeName
termination_by v => (s.unvisited path, sizeOf v)
decreasing_by
  · exact .left _ _ (unvisited_list_lt (by assumption) (by simpa using _h))
  · exact .left _ _ (unvisited_map_lt (by assumption) (by simpa using _h))
  · exact .right _ (by simp only [Value.pair.sizeOf_spec]; omega)
  · exact .right _ (by simp only [Value.pair.sizeOf_spec]; omega)

/-- Unfolds a value. -/
def Store.unfold (s : Store) (v : Value) : Tree :=
  s.unfoldAt [] v

/-! ## Collections on and off the path -/

namespace Store

/-- A list inside itself unfolds to its position on the path. -/
theorem unfoldAt_enclosingList (s : Store) {path : List Handle} {l : ListRef}
    (h : path.contains (.list l) = true) :
    s.unfoldAt path (.list l) = .enclosingList (pathPosition path (.list l)) := by
  rw [unfoldAt, dif_pos h]

/-- A map inside itself unfolds to its position on the path. -/
theorem unfoldAt_enclosingMap (s : Store) {path : List Handle} {m : MapRef}
    (h : path.contains (.map m) = true) :
    s.unfoldAt path (.map m) = .enclosingMap (pathPosition path (.map m)) := by
  rw [unfoldAt, dif_pos h]

/-- A list that is not on the path unfolds item by item. -/
theorem unfoldAt_list (s : Store) {path : List Handle} {l : ListRef}
    (h : path.contains (.list l) = false) :
    s.unfoldAt path (.list l) = .list ((s.list l).map (s.unfoldAt (.list l :: path))) := by
  rw [unfoldAt, dif_neg (by simpa using h)]
  simp

/-- A map that is not on the path unfolds entry by entry. -/
theorem unfoldAt_map (s : Store) {path : List Handle} {m : MapRef}
    (h : path.contains (.map m) = false) :
    s.unfoldAt path (.map m) =
      .map ((s.map m).entries.map fun e => (e.1, s.unfoldAt (.map m :: path) e.2)) := by
  rw [unfoldAt, dif_neg (by simpa using h)]
  simp only [List.attach_map_val
    (f := fun e : String × Value => (e.1, s.unfoldAt (.map m :: path) e.2))]

end Store

end ScriptRealm
