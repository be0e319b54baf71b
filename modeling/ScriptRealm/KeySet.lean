/-!
# Sorted sets of names

Sets of names as ascending lists, ordered by code points.
-/

namespace ScriptRealm.KeySet

/-- Adds a name to an ascending list, unless it is there. -/
def insert (name : String) : List String → List String
  | [] => [name]
  | k :: r => if name < k then name :: k :: r else if name = k then k :: r else k :: insert name r

/-- The ascending list of some names, each once. -/
def ofList (names : List String) : List String :=
  names.foldr insert []

@[simp] theorem mem_insert {name k : String} {keys : List String} :
    k ∈ insert name keys ↔ k = name ∨ k ∈ keys := by
  fun_induction insert name keys <;> grind

@[simp] theorem mem_ofList {k : String} {names : List String} : k ∈ ofList names ↔ k ∈ names := by
  induction names with
  | nil => simp [ofList]
  | cons n r ih => simp only [ofList, List.foldr_cons, mem_insert, List.mem_cons] at ih ⊢; rw [ih]

end ScriptRealm.KeySet
