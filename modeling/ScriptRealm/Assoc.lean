/-!
# Ordered associations

Finite maps from names to values that keep the order in which the names were first given.
-/

namespace ScriptRealm

/-- An association of values with distinct names, in the order of first insertion. -/
structure Assoc (α : Type) where
  entries : List (String × α)
  nodup_keys : (entries.map Prod.fst).Nodup := by simp

namespace Assoc

variable {α : Type}

instance : Inhabited (Assoc α) := ⟨{ entries := [] }⟩

instance : EmptyCollection (Assoc α) := ⟨{ entries := [] }⟩

/-- The names, in order. -/
def keys (a : Assoc α) : List String :=
  a.entries.map Prod.fst

/-- The values, in the order of their names. -/
def values (a : Assoc α) : List α :=
  a.entries.map Prod.snd

/-- The number of names. -/
def size (a : Assoc α) : Nat :=
  a.entries.length

/-- The value of a name. -/
def find? (a : Assoc α) (name : String) : Option α :=
  (a.entries.find? (·.1 == name)).map Prod.snd

def contains (a : Assoc α) (name : String) : Bool :=
  (a.find? name).isSome

/-! ## Insertion -/

/-- Replaces the value of a name that is present, and appends a name that is not. -/
def insertEntry (name : String) (value : α) : List (String × α) → List (String × α)
  | [] => [(name, value)]
  | e :: r => if e.1 = name then (name, value) :: r else e :: insertEntry name value r

/-- A name that is there keeps its place, and a new one goes behind the others. -/
theorem keys_insertEntry (name : String) (value : α) (entries : List (String × α)) :
    (insertEntry name value entries).map Prod.fst =
      if name ∈ entries.map Prod.fst then entries.map Prod.fst
      else entries.map Prod.fst ++ [name] := by
  induction entries with
  | nil => rfl
  | cons e r ih =>
    by_cases h : e.1 = name
    · simp [insertEntry, h]
    · have h' : ¬ name = e.1 := fun q => h q.symm
      by_cases hr : name ∈ r.map Prod.fst
      · simp [insertEntry, h, h', ih, hr]
      · simp only [insertEntry, h, if_false, List.map_cons, ih, hr, List.mem_cons, h', or_self,
          List.cons_append]

theorem nodup_keys_insertEntry (name : String) (value : α) {entries : List (String × α)}
    (h : (entries.map Prod.fst).Nodup) : ((insertEntry name value entries).map Prod.fst).Nodup := by
  rw [keys_insertEntry]
  split
  · exact h
  · rename_i hn
    exact List.nodup_append.2
      ⟨h, by simp, fun a ha b hb hab => hn (by simp at hb; exact hb ▸ hab ▸ ha)⟩

/-- Binds a name: a name that is present keeps its place, one that is not goes to the end. -/
def insert (a : Assoc α) (name : String) (value : α) : Assoc α :=
  ⟨insertEntry name value a.entries, nodup_keys_insertEntry name value a.nodup_keys⟩

/-- Binds the names of a list one after the other. -/
def ofList (entries : List (String × α)) : Assoc α :=
  entries.foldl (fun a e => a.insert e.1 e.2) ∅

/-! ## Removal -/

/-- Removes a name; the other names keep their order. -/
def erase (a : Assoc α) (name : String) : Assoc α where
  entries := a.entries.filter (·.1 != name)
  nodup_keys := a.nodup_keys.sublist (List.filter_sublist.map Prod.fst)

/-! ## Look-up after an operation -/

@[simp] theorem entries_empty : (∅ : Assoc α).entries = [] := rfl

@[simp] theorem find?_empty (name : String) : (∅ : Assoc α).find? name = none := rfl

/-- After an insertion, its name has the value and all other names have what they had. -/
@[simp] theorem find?_insert_self (a : Assoc α) (name : String) (value : α) :
    (a.insert name value).find? name = some value := by
  obtain ⟨entries, h⟩ := a
  simp only [find?, insert]
  induction entries with
  | nil => simp [insertEntry]
  | cons e r ih =>
    by_cases he : e.1 = name
    · simp [insertEntry, he]
    · simpa [insertEntry, he] using ih (by simp at h; exact h.2)

theorem find?_insert_of_ne (a : Assoc α) {name other : String} (value : α) (hn : other ≠ name) :
    (a.insert name value).find? other = a.find? other := by
  obtain ⟨entries, h⟩ := a
  simp only [find?, insert]
  induction entries with
  | nil => simp [insertEntry, hn.symm]
  | cons e r ih =>
    by_cases he : e.1 = name
    · simp [insertEntry, he, hn.symm]
    · by_cases ho : e.1 = other
      · simp [insertEntry, ho, hn]
      · simpa [insertEntry, he, ho] using ih (by simp at h; exact h.2)

/-- Each entry is found under its name. -/
theorem find?_of_mem {a : Assoc α} {e : String × α} (he : e ∈ a.entries) :
    a.find? e.1 = some e.2 := by
  obtain ⟨entries, hn⟩ := a
  simp only [find?] at he ⊢
  induction entries with
  | nil => simp at he
  | cons d r ih =>
    simp only [List.map_cons, List.nodup_cons] at hn
    by_cases hd : d = e
    · simp [hd]
    · have hr : e ∈ r := by simpa [Ne.symm hd] using he
      have hk : d.1 ≠ e.1 := fun q => hn.1 (q ▸ List.mem_map_of_mem hr)
      simpa [hk] using ih hn.2 hr

/-- Erasing keeps the order of the other names. -/
theorem keys_erase (a : Assoc α) (name : String) :
    (a.erase name).keys = a.keys.filter (· != name) := by
  simp only [keys, erase, List.filter_map]
  rfl

end Assoc

end ScriptRealm
