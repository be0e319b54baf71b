import ScriptRealm.Proofs.Collection.Reference

/-!
# Stores as plain stores

What the operations of the store come to in the plain store that it stands for.
-/

namespace ScriptRealm

/-! ## Associations as lists -/

namespace Assoc

variable {α : Type}

theorem ext_entries {a b : Assoc α} (h : a.entries = b.entries) : a = b := by
  cases a
  cases b
  cases h
  rfl

/-- Looking a name up is the look-up of an association list. -/
theorem find?_eq_lookup (a : Assoc α) (name : String) :
    a.find? name = a.entries.lookup name := by
  obtain ⟨entries, hnodup⟩ := a
  simp only [find?]
  clear hnodup
  induction entries with
  | nil => rfl
  | cons e rest ih =>
    obtain ⟨n, v⟩ := e
    by_cases hn : n = name
    · subst hn
      simp
    · have hne : (name == n) = false := by simpa using Ne.symm hn
      simpa [List.lookup_cons, hn, hne] using ih

/-- A name that is absent goes to the end. -/
theorem insertEntry_of_not_mem {name : String} {entries : List (String × α)} (v : α)
    (h : name ∉ entries.map Prod.fst) : insertEntry name v entries = entries ++ [(name, v)] := by
  induction entries with
  | nil => rfl
  | cons e rest ih =>
    simp only [List.map_cons, List.mem_cons, not_or] at h
    rw [insertEntry, if_neg (Ne.symm h.1), ih h.2, List.cons_append]

/-- Making an association of the entries of an association changes nothing. -/
theorem ofList_entries (a : Assoc α) : ofList a.entries = a := by
  -- the entries so far have names that the entries to come do not have
  have hfold : ∀ (rest : List (String × α)) (b : Assoc α),
      ((b.entries ++ rest).map Prod.fst).Nodup →
      (rest.foldl (fun a e => a.insert e.1 e.2) b).entries = b.entries ++ rest := by
    intro rest
    induction rest with
    | nil => intro b _; simp
    | cons e rest ih =>
      intro b hnodup
      have habsent : e.1 ∉ b.entries.map Prod.fst := by
        rw [List.map_append, List.nodup_append] at hnodup
        exact fun hmem => hnodup.2.2 _ hmem e.1 (by simp) rfl
      have hinsert : (b.insert e.1 e.2).entries = b.entries ++ [e] :=
        insertEntry_of_not_mem e.2 habsent
      rw [List.foldl_cons, ih, hinsert, List.append_assoc, List.singleton_append]
      rw [hinsert, List.append_assoc, List.singleton_append]
      exact hnodup
  have hentries := hfold a.entries ∅ (by simpa using a.nodup_keys)
  exact ext_entries hentries

end Assoc

/-- Where names are distinct, writing an entry binds its name. -/
theorem Content.insertEntry_eq_bindName {name : String} {pairs : List (String × Value)} (v : Value)
    (hnodup : (pairs.map Prod.fst).Nodup) :
    Assoc.insertEntry name v pairs = bindName name v pairs := by
  by_cases hmem : name ∈ pairs.map Prod.fst
  · rw [bindName, if_pos hmem]
    induction pairs with
    | nil => simp at hmem
    | cons e rest ih =>
      simp only [List.map_cons, List.nodup_cons] at hnodup
      by_cases he : e.1 = name
      · -- the names after it are other names
        have hrest : rest.map (fun e => if e.1 = name then (name, v) else e) = rest := by
          have hother : ∀ d ∈ rest, (if d.1 = name then (name, v) else d) = d := by
            intro d hd
            refine if_neg fun hd' => hnodup.1 ?_
            rw [he, ← hd']
            exact List.mem_map_of_mem hd
          rw [List.map_congr_left hother, List.map_id']
        simp [Assoc.insertEntry, he, hrest]
      · have hmem' : name ∈ rest.map Prod.fst := by
          simpa [Ne.symm he] using hmem
        simp [Assoc.insertEntry, he, ih hnodup.2 hmem']
  · rw [bindName, if_neg hmem, Assoc.insertEntry_of_not_mem v hmem]

namespace Store

/-- The plain store that a store stands for. -/
def plain (s : Store) : PlainStore :=
  ⟨s.lists.toList, s.maps.toList.map (·.entries)⟩

@[simp] theorem store_plain (s : Store) : s.plain.store = s := by
  simp [plain, PlainStore.store, Assoc.ofList_entries, Function.comp_def]

@[simp] theorem content_plain (s : Store) (h : Handle) : s.plain.content h = s.content h := by
  cases h with
  | list l => simp [plain, PlainStore.content, content, list]
  | map m =>
    simp only [plain, PlainStore.content, content, map, List.getElem?_map, Array.getElem?_toList]
    cases s.maps[m.index]? <;> rfl

theorem plain_setList (s : Store) (l : ListRef) (values : List Value) :
    (s.setList l values).plain = s.plain.place (.list l) (.items values) := by
  simp [plain, PlainStore.place, setList]

theorem plain_setMap (s : Store) (m : MapRef) (entries : Assoc Value) :
    (s.setMap m entries).plain = s.plain.place (.map m) (.entries entries.entries) := by
  simp [plain, PlainStore.place, setMap]

/-- A list that is made gets a handle which is new to the plain store as well. -/
theorem plain_newList (s : Store) (values : List Value) :
    (Value.list (s.newList values).1, (s.newList values).2.plain) = s.plain.fresh values := by
  simp [plain, PlainStore.fresh, newList]

/-- Taking a member out of the store is taking it out of the plain store. -/
theorem takeOut_plain (s : Store) (h : Handle) (key : Value) :
    (s.takeOut h key).map (fun x => (x.1, x.2.plain)) =
      ((s.plain.content h).remove? key).map fun x => (x.1, s.plain.place h x.2) := by
  rw [content_plain]
  cases h with
  | list l =>
    simp only [takeOut, content, Content.remove?]
    cases key.index? with
    | none => rfl
    | some i =>
      cases hget : (s.list l)[i]? with
      | none => simp [hget]
      | some v => simp [hget, plain_setList, List.eraseIdx_eq_take_drop_succ]
  | map m =>
    simp only [takeOut, content, Content.remove?]
    cases key.memberName? with
    | none => rfl
    | some name =>
      rw [Option.bind_eq_bind, Option.bind_some, Assoc.find?_eq_lookup]
      cases hfind : (s.map m).entries.lookup name with
      | none => simp [hfind]
      | some v => simp [hfind, plain_setMap, Assoc.erase]

end Store

/-- A read hands over the member that its key addresses. -/
theorem Capability.read_adapter_actsAs (h : Handle) (key : Value) (cast : Cast) (m : Machine) :
    (h.adapter.read h.value key cast).ActsAs
      (match (m.store.content h).member? key with
        | none => pure .missing
        | some v => Accessor.foundBy cast (pure v)) m := by
  cases h with
  | list l =>
    simp only [Handle.adapter, Handle.value, sequence, readItem, Store.content, Content.member?]
    cases key.index? with
    | none => exact .refl _ m
    | some i =>
      cases hget : (m.store.list l)[i]? <;> constructor <;> intro answer <;>
        simp [hget, Accessor.foundBy]
  | map r =>
    simp only [Handle.adapter, Handle.value, mapping, readEntry, Store.content, Content.member?]
    cases key.memberName? with
    | none => exact .refl _ m
    | some name =>
      cases hfind : (m.store.map r).entries.lookup name <;> constructor <;> intro answer <;>
        simp [Assoc.find?_eq_lookup, hfind, Accessor.foundBy]

end ScriptRealm
