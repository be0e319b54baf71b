import ScriptRealm.Proofs.Assoc
import ScriptRealm.Proofs.Queries
import ScriptRealm.Store.Path

/-!
# Contents of collections

Lists and maps as handles on what they hold, and what taking a member out of them leaves.
-/

namespace ScriptRealm

/-- The value that a handle is seen as. -/
def Handle.value : Handle → Value
  | .list l => .list l
  | .map m => .map m

/-- The capability that gives access to collections of this kind. -/
def Handle.adapter : Handle → Capability
  | .list _ => .sequence
  | .map _ => .mapping

/-- What a collection holds. -/
inductive Content where
  | items (values : List Value)
  | entries (pairs : List (String × Value))
deriving DecidableEq

def Content.size : Content → Nat
  | .items values => values.length
  | .entries pairs => pairs.length

namespace Store

/-- What the collection of a handle holds. -/
def content (s : Store) : Handle → Content
  | .list l => .items (s.list l)
  | .map m => .entries (s.map m).entries

/-- Whether a handle has a collection in the store. -/
def Known (s : Store) : Handle → Prop
  | .list l => l.index < s.lists.size
  | .map m => m.index < s.maps.size

/-- A store in which the collections of another one hold what they hold there. It may have more. -/
structure Keeps (s s' : Store) : Prop where
  content : ∀ h, s.Known h → s'.content h = s.content h

theorem Keeps.refl (s : Store) : s.Keeps s :=
  ⟨fun _ _ => rfl⟩

/-! ## Taking a member out -/

/-- The member of a collection that a key addresses, and the store without it. -/
def takeOut (s : Store) (h : Handle) (key : Value) : Option (Value × Store) :=
  match h with
  | .list l => do
    let i ← key.index?
    let v ← (s.list l)[i]?
    return (v, s.setList l ((s.list l).eraseIdx i))
  | .map m => do
    let name ← key.memberName?
    let v ← (s.map m).find? name
    return (v, s.setMap m ((s.map m).erase name))

/-- Only from a collection that is there can a member be taken. -/
theorem known_takeOut {s s' : Store} {h : Handle} {key v : Value}
    (ht : s.takeOut h key = some (v, s')) : s.Known h ∧ s'.Known h := by
  cases h with
  | list l =>
    simp only [takeOut, Option.bind_eq_bind, Option.bind_eq_some_iff, Option.pure_def,
      Option.some.injEq, Prod.mk.injEq] at ht
    obtain ⟨i, -, w, hw, -, rfl⟩ := ht
    have hlt := index_lt_of_mem_list (List.mem_of_getElem? hw)
    exact ⟨hlt, by simpa [Known, setList] using hlt⟩
  | map m =>
    simp only [takeOut, Option.bind_eq_bind, Option.bind_eq_some_iff, Option.pure_def,
      Option.some.injEq, Prod.mk.injEq] at ht
    obtain ⟨name, -, w, hw, -, rfl⟩ := ht
    obtain ⟨e, he, -⟩ := Option.map_eq_some_iff.1 hw
    have hlt := index_lt_of_mem_map (List.mem_of_find?_eq_some he)
    exact ⟨hlt, by simpa [Known, setMap] using hlt⟩

/-- What is taken out is missing from then on. -/
theorem size_content_takeOut {s s' : Store} {h : Handle} {key v : Value}
    (ht : s.takeOut h key = some (v, s')) :
    (s'.content h).size + 1 = (s.content h).size := by
  have hknown := (known_takeOut ht).1
  cases h with
  | list l =>
    simp only [takeOut, Option.bind_eq_bind, Option.bind_eq_some_iff, Option.pure_def,
      Option.some.injEq, Prod.mk.injEq] at ht
    obtain ⟨i, -, w, hw, -, rfl⟩ := ht
    obtain ⟨hi, -⟩ := List.getElem?_eq_some_iff.1 hw
    simp only [content, Content.size, s.list_setList_self hknown, List.length_eraseIdx_of_lt hi]
    omega
  | map m =>
    simp only [takeOut, Option.bind_eq_bind, Option.bind_eq_some_iff, Option.pure_def,
      Option.some.injEq, Prod.mk.injEq] at ht
    obtain ⟨name, -, w, hw, -, rfl⟩ := ht
    simp only [content, Content.size, s.map_setMap_self hknown]
    exact Assoc.size_erase hw

end Store

namespace Capability

/-- A deletion takes the member out first, and then converts it. -/
theorem delete_adapter_actsAs (h : Handle) (key : Value) (m : Machine) :
    (h.adapter.delete h.value key).ActsAs
      (match m.store.takeOut h key with
        | none => pure .missing
        | some (v, s) => Accessor.foundBy .toScript (do Program.setStore s; return v)) m := by
  cases h with
  | list l =>
    simp only [Handle.adapter, Handle.value, sequence, deleteItem, Store.takeOut]
    cases key.index? with
    | none => exact .refl _ m
    | some i =>
      cases hget : (m.store.list l)[i]? <;> constructor <;> intro answer <;>
        simp [hget, Accessor.foundBy]
  | map r =>
    simp only [Handle.adapter, Handle.value, mapping, deleteEntry, Store.takeOut]
    cases key.memberName? with
    | none => exact .refl _ m
    | some name =>
      cases hfind : (m.store.map r).find? name <;> constructor <;> intro answer <;>
        simp [hfind, Accessor.foundBy]

theorem run_delete_adapter (answer : (q : Query) → Machine → Ending q.Answer) (h : Handle)
    (key : Value) (m : Machine) :
    (h.adapter.delete h.value key).run answer m =
      match m.store.takeOut h key with
      | none => .returned .missing m
      | some (v, s) =>
        (Cast.toScript.ending answer v { m with store := s }).andThen fun w m =>
          .returned (.found w) m := by
  rw [(delete_adapter_actsAs h key m).run]
  cases m.store.takeOut h key with
  | none => rfl
  | some taken => exact Accessor.run_foundBy answer .toScript _ m

end Capability

end ScriptRealm
