import ScriptRealm.Assoc

/-!
# Ordered associations: contents

What an association made from a list holds, and how many entries removing a name leaves.
-/

namespace ScriptRealm.Assoc

variable {α : Type}

/-- Of the values that a list gives to one name, the last one stays. -/
theorem find?_ofList (entries : List (String × α)) (name : String) :
    (ofList entries).find? name = (entries.reverse.find? (·.1 == name)).map Prod.snd := by
  have hfold : ∀ (a : Assoc α), (entries.foldl (fun a e => a.insert e.1 e.2) a).find? name =
      ((entries.reverse.find? (·.1 == name)).map Prod.snd).or (a.find? name) := by
    induction entries with
    | nil => intro a; simp
    | cons e rest ih =>
      intro a
      rw [List.foldl_cons, ih, List.reverse_cons, List.find?_append]
      cases rest.reverse.find? (·.1 == name) with
      | some e' => simp
      | none =>
        by_cases he : e.1 = name
        · subst he
          simp
        · simp [he, find?_insert_of_ne a e.2 (Ne.symm he)]
  simpa [ofList] using hfold ∅

theorem mem_keys_of_find? {a : Assoc α} {name : String} {v : α} (h : a.find? name = some v) :
    name ∈ a.keys := by
  obtain ⟨e, he, -⟩ := Option.map_eq_some_iff.1 h
  have hname : e.1 = name := by simpa using List.find?_some he
  rw [← hname]
  exact List.mem_map_of_mem (List.mem_of_find?_eq_some he)

/-- The names are those that have a value. -/
theorem mem_keys_iff (a : Assoc α) (k : String) : k ∈ a.keys ↔ (a.find? k).isSome := by
  constructor
  · intro hk
    obtain ⟨e, he, rfl⟩ := List.mem_map.1 hk
    rw [find?_of_mem he]
    rfl
  · intro hk
    obtain ⟨v, hv⟩ := Option.isSome_iff_exists.1 hk
    exact mem_keys_of_find? hv

/-- Removing a name that is present leaves one entry less. -/
theorem size_erase {a : Assoc α} {name : String} {v : α} (h : a.find? name = some v) :
    (a.erase name).size + 1 = a.size := by
  have hmem := mem_keys_of_find? h
  have hkeys : (a.erase name).keys = a.keys.erase name := by
    have hnodup : a.keys.Nodup := a.nodup_keys
    rw [keys_erase, hnodup.erase_eq_filter]
  have hsize : ∀ b : Assoc α, b.size = b.keys.length := by
    intro b
    simp [size, keys]
  rw [hsize, hsize, hkeys, List.length_erase_of_mem hmem]
  have hpos := List.length_pos_of_mem hmem
  omega

end ScriptRealm.Assoc
