import ScriptRealm.Proofs.Value.Unfolded

/-!
# Texts inside of collections

A walk that is inside of more collections has less to show: what it leaves out is the text of the
lists that it is inside of already. It shows everything where the value does not lead back to one of
them.
-/

namespace ScriptRealm

/-! ## Texts with parts left out -/

namespace Text

/-- One text is another one with characters left out. -/
def Within (t u : String) : Prop :=
  t.toList.Sublist u.toList

theorem Within.refl (t : String) : Within t t :=
  List.Sublist.refl t.toList

/-- All characters may be left out. -/
theorem empty_within (t : String) : Within "" t :=
  List.nil_sublist t.toList

/-- Characters may be left out of both parts. -/
theorem Within.append {t t' u u' : String} (h : Within t u) (h' : Within t' u') :
    Within (t ++ t') (u ++ u') := by
  simpa only [Within, String.toList_append] using List.Sublist.append h h'

/-- What is left out makes the text shorter. -/
theorem Within.length_le {t u : String} (h : Within t u) : t.length ≤ u.length := by
  simpa only [String.length_toList] using List.Sublist.length_le h

/-- Where the text is not shorter, nothing is left out. -/
theorem Within.eq_of_length_le {t u : String} (h : Within t u) (hle : u.length ≤ t.length) :
    t = u := by
  refine String.toList_inj.1 (List.Sublist.eq_of_length_le h ?_)
  simpa only [String.length_toList] using hle

/-- The loop over the texts gives what the library gives for them. -/
theorem join_eq_intercalate (separator : String) (texts : List String) :
    join separator texts = separator.intercalate texts := by
  cases texts with
  | nil => rfl
  | cons t rest =>
    -- both of them append to what they have so far
    have hgo : ∀ (acc : String), rest.foldl (fun acc t => acc ++ separator ++ t) acc =
        separator.intercalate (acc :: rest) := by
      induction rest with
      | nil => intro acc; simp
      | cons u rest ih => intro acc; rw [List.foldl_cons, ih]; simp
    exact hgo t

/-- The separator stands between the first text and the others. -/
theorem join_cons_cons (separator t u : String) (rest : List String) :
    join separator (t :: u :: rest) = t ++ separator ++ join separator (u :: rest) := by
  simp only [join_eq_intercalate, String.intercalate_cons_cons]

variable {α : Type} {f g : α → String} {items : List α}

/-- Characters may be left out of each of the joined texts. -/
theorem within_join (separator : String) (h : ∀ a ∈ items, Within (f a) (g a)) :
    Within (join separator (items.map f)) (join separator (items.map g)) := by
  induction items with
  | nil => exact .refl _
  | cons a rest ih =>
    have hfirst := h a List.mem_cons_self
    have hrest := ih fun b hb => h b (List.mem_cons_of_mem a hb)
    cases rest with
    | nil => exact hfirst
    | cons b rest =>
      simp only [List.map_cons, join_cons_cons] at hrest ⊢
      exact (hfirst.append (.refl separator)).append hrest

/-- Where each text is another one with characters left out, equal joins are joins of equal texts:
characters that are left out anywhere are missing from the whole. -/
theorem join_eq_join_iff (separator : String) (h : ∀ a ∈ items, Within (f a) (g a)) :
    join separator (items.map f) = join separator (items.map g) ↔ ∀ a ∈ items, f a = g a := by
  refine ⟨fun heq => ?_, fun heq => congrArg (join separator) (List.map_congr_left heq)⟩
  induction items with
  | nil => simp
  | cons a rest ih =>
    have hfirst := h a List.mem_cons_self
    have hrest : ∀ b ∈ rest, Within (f b) (g b) := fun b hb => h b (List.mem_cons_of_mem a hb)
    rw [List.forall_mem_cons]
    cases rest with
    | nil => exact ⟨heq, by simp⟩
    | cons b rest =>
      have hjoin := within_join separator hrest
      simp only [List.map_cons, join_cons_cons] at heq hjoin ih
      have hlength := congrArg String.length heq
      have hle := hfirst.length_le
      have hjoinle := hjoin.length_le
      simp only [String.length_append] at hlength
      exact ⟨hfirst.eq_of_length_le (by omega), ih hrest (hjoin.eq_of_length_le (by omega))⟩

end Text

/-! ## Leading back to a list -/

namespace Store

variable (s : Store)

/-- A value leads to a list through lists and pairs. -/
inductive Reaches : Value → ListRef → Prop
  | self (l : ListRef) : Reaches (.list l) l
  | item {l k : ListRef} {v : Value} (hv : v ∈ s.list l) (h : Reaches v k) : Reaches (.list l) k
  | first {a : Value} (b : Value) {k : ListRef} (h : Reaches a k) : Reaches (.pair a b) k
  | second (a : Value) {b : Value} {k : ListRef} (h : Reaches b k) : Reaches (.pair a b) k

variable {s}

/-- A list that the walk is not inside of shows its items, with the walk inside of it. -/
theorem display_unfoldAt_list {path : List Handle} {l : ListRef} (h : Handle.list l ∉ path) :
    (s.unfoldAt path (.list l)).display =
      Text.join "," ((s.list l).map fun v => (s.unfoldAt (.list l :: path) v).display) := by
  rw [s.unfoldAt_list (by simpa using h), Tree.display, List.map_map]
  rfl

/-- A list that the walk is inside of shows nothing. -/
theorem display_unfoldAt_enclosed {path : List Handle} {l : ListRef} (h : Handle.list l ∈ path) :
    (s.unfoldAt path (.list l)).display = "" := by
  rw [s.unfoldAt_enclosingList (by simpa using h), Tree.display]

theorem display_unfoldAt_pair (path : List Handle) (a b : Value) :
    (s.unfoldAt path (.pair a b)).display =
      (s.unfoldAt path a).display ++ "," ++ (s.unfoldAt path b).display := by
  rw [s.unfoldAt_pair, Tree.display]

/-- A map shows nothing of its entries, wherever it stands. -/
theorem display_unfoldAt_map (path : List Handle) (m : MapRef) :
    (s.unfoldAt path (.map m)).display = if Handle.map m ∈ path then "" else "[object Object]" := by
  split
  · rw [s.unfoldAt_enclosingMap (by simpa), Tree.display]
  · rw [s.unfoldAt_map (by simpa), Tree.display]

/-- A value without parts shows the same everywhere. -/
theorem display_unfoldAt_leaf (path path' : List Handle) {v : Value} (h : v.isLeaf = true) :
    (s.unfoldAt path v).display = (s.unfoldAt path' v).display := by
  cases v with
  | list | map | pair => cases h
  | _ => rw [unfoldAt, unfoldAt]

/-- Inside of more collections a value has the same text with characters left out. -/
theorem within_unfoldAt {outer inner : List Handle} (h : outer ⊆ inner) (v : Value) :
    Text.Within (s.unfoldAt inner v).display (s.unfoldAt outer v).display := by
  induction outer, v using s.path_induction generalizing inner with
  | leaf outer v hv =>
    rw [display_unfoldAt_leaf inner outer hv]
    exact .refl _
  | pair outer a b iha ihb =>
    rw [display_unfoldAt_pair, display_unfoldAt_pair]
    exact ((iha h).append (.refl ",")).append (ihb h)
  | enclosingList outer l hl =>
    rw [display_unfoldAt_enclosed (h hl)]
    exact Text.empty_within _
  | list outer l hl ih =>
    by_cases hin : Handle.list l ∈ inner
    · rw [display_unfoldAt_enclosed hin]
      exact Text.empty_within _
    · rw [display_unfoldAt_list hin, display_unfoldAt_list hl]
      exact Text.within_join "," fun v hv => ih v hv (List.cons_subset_cons _ h)
  | enclosingMap outer m hm =>
    rw [display_unfoldAt_map, if_pos (h hm)]
    exact Text.empty_within _
  | map outer m hm =>
    rw [display_unfoldAt_map, display_unfoldAt_map, if_neg hm]
    split
    · exact Text.empty_within _
    · exact .refl _

/-- Being inside of a list makes no difference to a value that does not lead back to it. -/
theorem display_unfoldAt_of_not_reaches {outer inner : List Handle} {l : ListRef}
    (h : ∀ k, k ∈ inner ↔ k = .list l ∨ k ∈ outer) {v : Value} (hv : ¬s.Reaches v l) :
    (s.unfoldAt inner v).display = (s.unfoldAt outer v).display := by
  induction outer, v using s.path_induction generalizing inner with
  | leaf outer v hleaf => exact display_unfoldAt_leaf inner outer hleaf
  | pair outer a b iha ihb =>
    rw [display_unfoldAt_pair, display_unfoldAt_pair, iha h fun ha => hv (.first b ha),
      ihb h fun hb => hv (.second a hb)]
  | enclosingList outer k hk =>
    rw [display_unfoldAt_enclosed hk, display_unfoldAt_enclosed ((h _).2 (.inr hk))]
  | list outer k hk ih =>
    have hne : k ≠ l := by
      rintro rfl
      exact hv (.self k)
    have hin : Handle.list k ∉ inner := by simp [h, hk, hne]
    have hextend : ∀ j, j ∈ Handle.list k :: inner ↔ j = .list l ∨ j ∈ Handle.list k :: outer := by
      intro j
      simp only [List.mem_cons, h]
      exact or_left_comm
    rw [display_unfoldAt_list hin, display_unfoldAt_list hk]
    exact congrArg (Text.join ",")
      (List.map_congr_left fun w hw => ih w hw hextend fun hreach => hv (.item hw hreach))
  | enclosingMap outer m hm =>
    rw [display_unfoldAt_map, display_unfoldAt_map, if_pos hm, if_pos ((h _).2 (.inr hm))]
  | map outer m hm =>
    have hin : Handle.map m ∉ inner := by simp [h, hm]
    rw [display_unfoldAt_map, display_unfoldAt_map, if_neg hm, if_neg hin]

end Store

end ScriptRealm
