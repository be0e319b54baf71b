import Mathlib.Data.List.Forall2
import Mathlib.Logic.Relation
import ScriptRealm.Proofs.Value.Unfolded

/-!
# Sharing and cycles

What a walk finds depends on the content of the collections alone. On a value without cycles the
guard never acts, so the value has one unfolding that mentions no path, in which each occurrence of
a shared collection is unfolded in full. And where collections are stored does not matter: moved to
other addresses, a value unfolds to the same tree.
-/

namespace ScriptRealm

/-! ## Cycles -/

/-- The collections that a value leads to without entering one. -/
def Value.collections : Value → List Handle
  | .list l => [.list l]
  | .map m => [.map m]
  | .pair a b => a.collections ++ b.collections
  | _ => []

namespace Store

variable {s : Store}

/-- The values that a collection holds. -/
def members (s : Store) : Handle → List Value
  | .list l => s.list l
  | .map m => (s.map m).values

/-- One collection holds another, itself or in a pair. -/
def Holds (s : Store) (h k : Handle) : Prop :=
  ∃ v ∈ s.members h, k ∈ v.collections

/-- No collection that the value leads to holds itself, through whatever others. -/
def Acyclic (s : Store) (v : Value) : Prop :=
  ∀ h ∈ v.collections, ∀ k, Relation.ReflTransGen s.Holds h k → ¬Relation.TransGen s.Holds k k

/-- The unfolding of a value without a guard: there is no path, and no marker. -/
inductive Unfolds (s : Store) : Value → Tree → Prop
  | undefined : Unfolds s .undefined .undefined
  | null : Unfolds s .null .null
  | boolean (b : Bool) : Unfolds s (.boolean b) (.boolean b)
  | char (c : Char) : Unfolds s (.char c) (.char c)
  | string (t : String) : Unfolds s (.string t) (.string t)
  | number (n : Number) : Unfolds s (.number n) (.number n)
  | list {l : ListRef} {items : List Tree} (h : List.Forall₂ (Unfolds s) (s.list l) items) :
      Unfolds s (.list l) (.list items)
  | map {m : MapRef} {entries : List (String × Tree)}
      (hnames : entries.map Prod.fst = (s.map m).keys)
      (h : List.Forall₂ (Unfolds s) (s.map m).values (entries.map Prod.snd)) :
      Unfolds s (.map m) (.map entries)
  | iterable (i : IterableRef) : Unfolds s (.iterable i) .iterable
  | hostClass (name : String) : Unfolds s (.hostClass name) (.hostClass name)
  | pair {a b : Value} {t u : Tree} (ha : Unfolds s a t) (hb : Unfolds s b u) :
      Unfolds s (.pair a b) (.pair t u)
  | object (o : ObjectRef) : Unfolds s (.object o) (.object o.typeName)

/-! ## Acyclic values -/

theorem Acyclic.of_subset {v w : Value} (h : s.Acyclic v)
    (hsub : ∀ k ∈ w.collections, k ∈ v.collections) : s.Acyclic w :=
  fun k hk => h k (hsub k hk)

/-- What an acyclic collection holds is acyclic. -/
theorem Acyclic.member {v w : Value} {h : Handle} (hv : s.Acyclic v) (hh : h ∈ v.collections)
    (hw : w ∈ s.members h) : s.Acyclic w := by
  intro k hk j hkj
  have hholds : s.Holds h k := ⟨w, hw, hk⟩
  exact hv h hh j (Relation.ReflTransGen.head hholds hkj)

/-- Where what is held ranks below what holds it, nothing is cyclic. -/
theorem acyclic_of_rank (rank : Handle → Nat) (h : ∀ j k, s.Holds j k → rank k < rank j)
    (v : Value) : s.Acyclic v := by
  intro j _ k _ hcycle
  have hfalls : ∀ i, Relation.TransGen s.Holds k i → rank i < rank k := by
    -- induction on the chain of collections that hold each other
    intro i hi
    induction hi with
    | single hstep => exact h _ _ hstep
    | tail _ hstep ih => exact Nat.lt_trans (h _ _ hstep) ih
  exact Nat.lt_irrefl _ (hfalls k hcycle)

/-- The path that a walk took to a value: each collection on it leads to all that the value leads
to. -/
def LeadsTo (s : Store) (path : List Handle) (v : Value) : Prop :=
  ∀ h ∈ path, ∀ k ∈ v.collections, Relation.TransGen s.Holds h k

theorem LeadsTo.of_subset {path : List Handle} {v w : Value} (h : s.LeadsTo path v)
    (hsub : ∀ k ∈ w.collections, k ∈ v.collections) : s.LeadsTo path w :=
  fun k hk j hj => h k hk j (hsub j hj)

/-- Entering a collection extends the path. -/
theorem LeadsTo.enter {path : List Handle} {v w : Value} {h : Handle} (hpath : s.LeadsTo path v)
    (hh : h ∈ v.collections) (hw : w ∈ s.members h) : s.LeadsTo (h :: path) w := by
  intro j hj k hk
  have hholds : s.Holds h k := ⟨w, hw, hk⟩
  rcases List.mem_cons.1 hj with rfl | hj
  · exact Relation.TransGen.single hholds
  · exact Relation.TransGen.tail (hpath j hj h hh) hholds

/-- The guard does not act on an acyclic value. -/
theorem Acyclic.not_mem_path {path : List Handle} {v : Value} {h : Handle} (hv : s.Acyclic v)
    (hpath : s.LeadsTo path v) (hh : h ∈ v.collections) : h ∉ path :=
  fun hmem => hv h hh h Relation.ReflTransGen.refl (hpath h hmem h hh)

theorem forall₂_iff_eq_map {α β : Type} {r : α → β → Prop} {f : α → β} {as : List α} {bs : List β}
    (h : ∀ a ∈ as, ∀ b, r a b ↔ b = f a) : List.Forall₂ r as bs ↔ bs = as.map f := by
  induction as generalizing bs with
  | nil => simp
  | cons a rest ih =>
    have hfirst := h a List.mem_cons_self
    have hrest : ∀ bs, List.Forall₂ r rest bs ↔ bs = rest.map f :=
      fun _ => ih fun a' ha' => h a' (List.mem_cons_of_mem a ha')
    simp [List.forall₂_cons_left_iff, hfirst, hrest]

/-- Entries are the same where names and values are. -/
theorem eq_map_iff {α β : Type} {f : α → β} {as : List (String × α)} {bs : List (String × β)} :
    bs = (as.map fun e => (e.1, f e.2)) ↔
      bs.map Prod.fst = as.map Prod.fst ∧ bs.map Prod.snd = (as.map Prod.snd).map f := by
  induction as generalizing bs with
  | nil => simp
  | cons a rest ih =>
    cases bs with
    | nil => simp
    | cons b bs =>
      simp only [List.map_cons, List.cons.injEq, ih, Prod.ext_iff]
      tauto

/-- An acyclic value has one unfolding without a guard, and the guarded one is the same. -/
theorem unfolds_iff {path : List Handle} {v : Value} (hv : s.Acyclic v) (hpath : s.LeadsTo path v)
    (t : Tree) : s.Unfolds v t ↔ t = s.unfoldAt path v := by
  induction path, v using s.path_induction generalizing t with
  | leaf path v hleaf =>
    cases v with
    | list | map | pair => cases hleaf
    | _ =>
      rw [unfoldAt]
      constructor
      · rintro ⟨⟩
        rfl
      · rintro rfl
        constructor
  -- both parts are entered on the same path, as a pair has no handle
  | pair path a b iha ihb =>
    have hleft : ∀ k ∈ a.collections, k ∈ (Value.pair a b).collections :=
      fun k hk => List.mem_append_left _ hk
    have hright : ∀ k ∈ b.collections, k ∈ (Value.pair a b).collections :=
      fun k hk => List.mem_append_right _ hk
    have ha := iha (hv.of_subset hleft) (hpath.of_subset hleft)
    have hb := ihb (hv.of_subset hright) (hpath.of_subset hright)
    rw [unfoldAt_pair]
    constructor
    · rintro ⟨⟩
      rename_i t u ht hu
      rw [(ha t).1 ht, (hb u).1 hu]
    · rintro rfl
      exact .pair ((ha _).2 rfl) ((hb _).2 rfl)
  -- the guard does not act on an acyclic value, so that no marker is left to compare
  | enclosingList path l h => exact absurd h (hv.not_mem_path hpath (by simp [Value.collections]))
  | enclosingMap path m h => exact absurd h (hv.not_mem_path hpath (by simp [Value.collections]))
  -- the list joins the path of its items
  | list path l h ih =>
    have hself : Handle.list l ∈ (Value.list l).collections := by simp [Value.collections]
    have hitems : ∀ w ∈ s.list l, ∀ t, s.Unfolds w t ↔ t = s.unfoldAt (.list l :: path) w :=
      fun w hw => ih w hw (hv.member hself hw) (hpath.enter hself hw)
    rw [s.unfoldAt_list (by simpa using h)]
    constructor
    · rintro ⟨⟩
      rename_i items hall
      rw [(forall₂_iff_eq_map hitems).1 hall]
    · rintro rfl
      exact .list ((forall₂_iff_eq_map hitems).2 rfl)
  | map path m h ih =>
    have hself : Handle.map m ∈ (Value.map m).collections := by simp [Value.collections]
    have hvalues : ∀ w ∈ (s.map m).values, ∀ t, s.Unfolds w t ↔
        t = s.unfoldAt (.map m :: path) w := by
      intro w hw
      -- an entry is entered through its value; the names are compared one by one
      obtain ⟨e, he, rfl⟩ := List.mem_map.1 hw
      exact ih e he (hv.member hself hw) (hpath.enter hself hw)
    rw [s.unfoldAt_map (by simpa using h)]
    constructor
    · rintro ⟨⟩
      rename_i entries hnames hall
      have htrees := (forall₂_iff_eq_map hvalues).1 hall
      rw [← eq_map_iff.2 ⟨hnames, htrees⟩]
    · rintro rfl
      obtain ⟨hnames, htrees⟩ := eq_map_iff.1 rfl
      exact .map hnames ((forall₂_iff_eq_map hvalues).2 htrees)

end Store

/-! ## Addresses -/

/-- New addresses for all collections. -/
structure Relocation where
  list : ListRef → ListRef
  map : MapRef → MapRef
  list_injective : Function.Injective list
  map_injective : Function.Injective map

namespace Relocation

def handle (r : Relocation) : Handle → Handle
  | .list l => .list (r.list l)
  | .map m => .map (r.map m)

/-- A value with the new addresses of the collections that it leads to. -/
def value (r : Relocation) : Value → Value
  | .list l => .list (r.list l)
  | .map m => .map (r.map m)
  | .pair a b => .pair (r.value a) (r.value b)
  | v => v

/-- The second store holds at the new addresses what the first one holds at the old ones. -/
structure Moves (r : Relocation) (s s' : Store) : Prop where
  list : ∀ l, s'.list (r.list l) = (s.list l).map r.value
  map : ∀ m, (s'.map (r.map m)).entries = (s.map m).entries.map fun e => (e.1, r.value e.2)

variable (r : Relocation)

theorem handle_injective : Function.Injective r.handle := by
  intro h k heq
  cases h with
  | list l =>
    cases k with
    | list l' => rw [r.list_injective (Handle.list.inj heq)]
    | map m' => cases heq
  | map m =>
    cases k with
    | list l' => cases heq
    | map m' => rw [r.map_injective (Handle.map.inj heq)]

theorem idxOf_map_of_injective {α β : Type} [BEq α] [LawfulBEq α] [BEq β] [LawfulBEq β]
    {f : α → β} (hf : Function.Injective f) (a : α) (l : List α) :
    (l.map f).idxOf (f a) = l.idxOf a := by
  induction l with
  | nil => rfl
  | cons b rest ih =>
    by_cases h : b = a
    · subst h
      simp
    · have hne : f b ≠ f a := fun q => h (hf q)
      rw [List.map_cons, List.idxOf_cons_ne _ hne, List.idxOf_cons_ne _ h, ih]

theorem pathPosition_map (path : List Handle) (h : Handle) :
    pathPosition (path.map r.handle) (r.handle h) = pathPosition path h := by
  rw [pathPosition, pathPosition, ← List.map_reverse, idxOf_map_of_injective r.handle_injective]

theorem contains_map (path : List Handle) (h : Handle) :
    (path.map r.handle).contains (r.handle h) = path.contains h := by
  rw [Bool.eq_iff_iff]
  simp [List.mem_map_of_injective r.handle_injective]

/-- A value that is moved unfolds to the same tree. -/
theorem Moves.unfoldAt {r : Relocation} {s s' : Store} (h : r.Moves s s') (path : List Handle)
    (v : Value) : s'.unfoldAt (path.map r.handle) (r.value v) = s.unfoldAt path v := by
  -- along paths of the first store: the second one is only known where something is moved to
  induction path, v using s.path_induction with
  | leaf path v hv =>
    cases v with
    | list | map | pair => cases hv
    | _ => simp [value, Store.unfoldAt]
  | pair path a b iha ihb => rw [value, Store.unfoldAt_pair, Store.unfoldAt_pair, iha, ihb]
  | enclosingList path l hl =>
    have hin : path.contains (.list l) = true := by simpa using hl
    have hin' := (r.contains_map path (.list l)).trans hin
    have hposition := r.pathPosition_map path (.list l)
    rw [handle] at hin' hposition
    rw [value, s'.unfoldAt_enclosingList hin', s.unfoldAt_enclosingList hin, hposition]
  | enclosingMap path m hm =>
    have hin : path.contains (.map m) = true := by simpa using hm
    have hin' := (r.contains_map path (.map m)).trans hin
    have hposition := r.pathPosition_map path (.map m)
    rw [handle] at hin' hposition
    rw [value, s'.unfoldAt_enclosingMap hin', s.unfoldAt_enclosingMap hin, hposition]
  | list path l hl ih =>
    have hout : path.contains (.list l) = false := by simpa using hl
    have hout' := (r.contains_map path (.list l)).trans hout
    rw [handle] at hout'
    have hitems : ∀ v ∈ s.list l, s'.unfoldAt (.list (r.list l) :: path.map r.handle) (r.value v) =
        s.unfoldAt (.list l :: path) v := ih
    rw [value, s'.unfoldAt_list hout', s.unfoldAt_list hout, h.list, List.map_map]
    exact congrArg Tree.list (List.map_congr_left hitems)
  | map path m hm ih =>
    have hout : path.contains (.map m) = false := by simpa using hm
    have hout' := (r.contains_map path (.map m)).trans hout
    rw [handle] at hout'
    have hentries : ∀ e ∈ (s.map m).entries,
        (e.1, s'.unfoldAt (.map (r.map m) :: path.map r.handle) (r.value e.2)) =
          (e.1, s.unfoldAt (.map m :: path) e.2) :=
      fun e he => congrArg (Prod.mk e.1) (ih e he)
    rw [value, s'.unfoldAt_map hout', s.unfoldAt_map hout, h.map, List.map_map]
    exact congrArg Tree.map (List.map_congr_left hentries)

theorem Moves.unfold {r : Relocation} {s s' : Store} (h : r.Moves s s') (v : Value) :
    s'.unfold (r.value v) = s.unfold v :=
  h.unfoldAt [] v

end Relocation

/-! ## The walks -/

/-- Display, diagnostic text and number are plain recursion over the unfolded value: wherever a walk
is, it finds what the recursion does, and hands back the stack that it got. An acyclic value has one
unfolding without a guard, which is the one that the walks see, and a value that is moved to other
addresses looks the same. -/
theorem walks_eq_recursion (s : Store) (v : Value) :
    (s.display v = (s.unfold v).display ∧ s.describe v = (s.unfold v).describe ∧
      s.number v = (s.unfold v).toNumber) ∧
    (∀ path,
      (s.displayWalk v).run path =
        some ((s.unfoldAt (path.filter Handle.isList) v).display, path) ∧
      (s.describeWalk v).run path = some ((s.unfoldAt path v).describe, path) ∧
      (s.numberWalk v).run path =
        some ((s.unfoldAt (path.filter Handle.isList) v).toNumber, path)) ∧
    (s.Acyclic v → ∀ t, s.Unfolds v t ↔ t = s.unfold v) ∧
    ∀ (r : Relocation) (s' : Store), r.Moves s s' →
      s'.display (r.value v) = s.display v ∧ s'.describe (r.value v) = s.describe v ∧
        s'.number (r.value v) = s.number v := by
  refine ⟨⟨s.display_eq v, s.describe_eq v, s.number_eq v⟩, fun path => ?_, fun hv t => ?_, ?_⟩
  · exact ⟨s.run_displayWalk path v, s.run_describeWalk path v, s.run_numberWalk path v⟩
  · have hempty : s.LeadsTo [] v := by
      intro h hh
      simp at hh
    exact Store.unfolds_iff hv hempty t
  · intro r s' hmoves
    have htree := hmoves.unfold v
    rw [s'.display_eq, s'.describe_eq, s'.number_eq, s.display_eq, s.describe_eq, s.number_eq,
      htree]
    exact ⟨rfl, rfl, rfl⟩

/-! ## A shared list -/

namespace Store

/-- A list that holds another one twice. -/
def twice : Store :=
  ⟨#[[.list ⟨1⟩, .list ⟨1⟩], [.int 2]], #[]⟩

/-- The same two lists with their addresses exchanged. -/
def twiceExchanged : Store :=
  ⟨#[[.int 2], [.list ⟨0⟩, .list ⟨0⟩]], #[]⟩

theorem acyclic_twice (v : Value) : twice.Acyclic v := by
  refine acyclic_of_rank (fun h => if h = .list ⟨0⟩ then 1 else 0) ?_ v
  rintro j k ⟨w, hw, hk⟩
  match j with
  | .list ⟨0⟩ =>
    have hw' : w = .list ⟨1⟩ := by simpa [members, list, twice] using hw
    subst hw'
    have hk' : k = .list ⟨1⟩ := by simpa [Value.collections] using hk
    subst hk'
    decide
  | .list ⟨1⟩ =>
    have hw' : w = .int 2 := by simpa [members, list, twice] using hw
    subst hw'
    cases hk
  | .list ⟨n + 2⟩ => simp [members, list, twice] at hw
  | .map m => simp [members, map, twice, Assoc.values] at hw

theorem unfold_twice :
    twice.unfold (.list ⟨0⟩) =
      .list [.list [.number (.integer 2)], .list [.number (.integer 2)]] := by
  have hinner : twice.unfoldAt [.list ⟨0⟩] (.list ⟨1⟩) = .list [.number (.integer 2)] := by
    rw [twice.unfoldAt_list rfl]
    simp [list, twice, unfoldAt, Value.int]
  have houter : twice.list ⟨0⟩ = [.list ⟨1⟩, .list ⟨1⟩] := rfl
  rw [unfold, twice.unfoldAt_list rfl]
  simp [houter, hinner]

end Store

/-- Exchanges the addresses of the first two lists. -/
def Relocation.exchange : Relocation where
  list
    | ⟨0⟩ => ⟨1⟩
    | ⟨1⟩ => ⟨0⟩
    | l => l
  map m := m
  list_injective := by
    rintro ⟨_ | _ | i⟩ ⟨_ | _ | j⟩ h <;> simp_all
  map_injective _ _ h := h

theorem Relocation.moves_exchange : exchange.Moves .twice .twiceExchanged where
  list := by
    rintro ⟨_ | _ | i⟩
    · rfl
    · rfl
    · simp [Store.list, Store.twice, Store.twiceExchanged, exchange]
  map m := by simp [Store.map, Store.twice, Store.twiceExchanged]

/-- A list that is held twice unfolds twice, and looks the same at other addresses. -/
theorem walks_eq_recursion_twice :
    let shared : Value := .list ⟨0⟩
    let two : Tree := .list [.number (.integer 2)]
    Store.twice.Acyclic shared ∧ Store.twice.Unfolds shared (.list [two, two]) ∧
      Relocation.exchange.Moves .twice .twiceExchanged ∧
      Store.twiceExchanged.display (Relocation.exchange.value shared) = "2,2" := by
  intro shared two
  have hacyclic := Store.acyclic_twice shared
  have hmoves := Relocation.moves_exchange
  obtain ⟨⟨hdisplay, -, -⟩, -, hunfolds, hmoved⟩ := walks_eq_recursion .twice shared
  have htree := Store.unfold_twice
  refine ⟨hacyclic, (hunfolds hacyclic _).2 htree.symm, hmoves, ?_⟩
  rw [(hmoved _ _ hmoves).1, hdisplay, htree]
  decide +kernel

end ScriptRealm
