import ScriptRealm.Value.Coercion
import ScriptRealm.Value.Render
import ScriptRealm.Value.Tree

/-!
# Walks and unfolded values

A walk keeps one stack for all its parts. What it finds is nevertheless what plain recursion over
the unfolded value finds, where a collection met again inside itself is replaced by a marker. The
invariant is that each part of a walk hands the stack back as it got it; so the stack always is the
path from the beginning of the walk to its present place.
-/

namespace ScriptRealm

/-- A value that holds no other values. -/
def Value.isLeaf : Value → Bool
  | .list _ => false
  | .map _ => false
  | .pair _ _ => false
  | _ => true

def Handle.isList : Handle → Bool
  | .list _ => true
  | .map _ => false

/-! ## Recursion over trees -/

namespace Tree

/-- Members are smaller than what they are in, so that the recursion on trees ends. -/
theorem sizeOf_lt_of_mem_items {t : Tree} {items : List Tree} (h : t ∈ items) :
    sizeOf t < sizeOf (Tree.list items) := by
  have hmem := List.sizeOf_lt_of_mem h
  simp only [Tree.list.sizeOf_spec]
  omega

theorem sizeOf_lt_of_mem_entries {e : String × Tree} {entries : List (String × Tree)}
    (h : e ∈ entries) : sizeOf e.2 < sizeOf (Tree.map entries) := by
  have hmem := List.sizeOf_lt_of_mem h
  have hpair : sizeOf e.2 < sizeOf e := by
    cases e
    simp only [Prod.mk.sizeOf_spec]
    omega
  simp only [Tree.map.sizeOf_spec]
  omega

/-- The text of a tree as scripts see it. The markers have none. -/
def display : Tree → String
  | .undefined => "undefined"
  | .null => "null"
  | .boolean b => if b then "true" else "false"
  | .char c => String.ofList [c]
  | .string t => t
  | .number n => n.text
  | .list items => Text.join "," (items.map fun t => t.display)
  | .map _ => "[object Object]"
  | .iterable => "[object Iterable]"
  | .hostClass name => "[class " ++ name ++ "]"
  | .pair a b => a.display ++ "," ++ b.display
  | .object typeName => "[object " ++ typeName ++ "]"
  | .enclosingList _ => ""
  | .enclosingMap _ => ""
termination_by t => sizeOf t
decreasing_by
  · exact sizeOf_lt_of_mem_items ‹_›
  · simp only [Tree.pair.sizeOf_spec]; omega
  · simp only [Tree.pair.sizeOf_spec]; omega

/-- The diagnostic text of a tree. The markers are collections that are cut short. -/
def describe : Tree → String
  | .undefined => "JsValue::Undefined"
  | .null => "JsValue::Null"
  | .boolean b => "JsValue::Boolean(" ++ (if b then "true" else "false") ++ ")"
  | .char c => "JsValue::Char(" ++ Text.quoteChar c ++ ")"
  | .string t => "JsValue::String(" ++ Text.quoteString t ++ ")"
  | .number n => "JsValue::Number(" ++ n.describe ++ ")"
  | .list items => "JsValue::List([" ++ Text.join ", " (items.map fun t => t.describe) ++ "])"
  | .map entries =>
    "JsValue::Map(\x7b" ++
      Text.join ", " (entries.map fun e => Text.quoteString e.1 ++ ": " ++ e.2.describe) ++ "\x7d)"
  | .iterable => "JsValue::Iterable(...)"
  | .hostClass name => "JsValue::Class(" ++ name ++ ")"
  | .pair a b => "JsValue::Pair(" ++ a.describe ++ ", " ++ b.describe ++ ")"
  | .object typeName => "JsValue::Object(" ++ typeName ++ ")"
  | .enclosingList _ => "JsValue::List([...])"
  | .enclosingMap _ => "JsValue::Map(\x7b...\x7d)"
termination_by t => sizeOf t
decreasing_by
  · exact sizeOf_lt_of_mem_items ‹_›
  · exact sizeOf_lt_of_mem_entries ‹_›
  · simp only [Tree.pair.sizeOf_spec]; omega
  · simp only [Tree.pair.sizeOf_spec]; omega

/-- The number of a tree. The markers are zero. -/
def toNumber : Tree → Number
  | .null => .integer 0
  | .boolean b => .integer (if b then 1 else 0)
  | .number n => n
  | .char c => .ofText (String.ofList [c])
  | .string t => .ofText t
  | .list [] => .integer 0
  | .list [t] => t.toNumber
  | .enclosingList _ => .integer 0
  | .enclosingMap _ => .integer 0
  | _ => .nan

end Tree

/-! ## Steps of a walk -/

namespace Walk

variable {α β : Type}

@[simp] theorem run_isInside (h : Handle) (path : List Handle) :
    (isInside h).run path = some (path.contains h, path) := rfl

@[simp] theorem run_enter (h : Handle) (path : List Handle) :
    (enter h).run path = some ((), h :: path) := rfl

@[simp] theorem run_leave (path : List Handle) : leave.run path = some ((), path.tail) := rfl

/-- Visits that each hand the stack back do so in a row. -/
theorem run_mapM {visit : α → Walk β} {result : α → β} {path : List Handle} {members : List α}
    (h : ∀ a ∈ members, (visit a).run path = some (result a, path)) :
    (members.mapM visit).run path = some (members.map result, path) := by
  induction members with
  | nil => rfl
  | cons a rest ih =>
    have hfirst := h a List.mem_cons_self
    have hrest := ih fun b hb => h b (List.mem_cons_of_mem a hb)
    simp [List.mapM_cons, hfirst, hrest]

/-- What a walk gives when it is begun outside of all collections. -/
theorem outcome_eq [Inhabited α] {w : Walk α} {a : α} (h : w.run [] = some (a, [])) :
    w.outcome = a := by
  rw [outcome, h]
  rfl

end Walk

namespace Store

variable (s : Store)

/-! ## Induction along paths -/

/-- Induction on a value inside the collections of a path. A collection that is not on the path is
settled by its members, which are inside of it; one that is on the path has to be settled at once.
-/
@[elab_as_elim]
theorem path_induction {motive : List Handle → Value → Prop}
    (leaf : ∀ path v, v.isLeaf = true → motive path v)
    (pair : ∀ path a b, motive path a → motive path b → motive path (.pair a b))
    (enclosingList : ∀ path l, Handle.list l ∈ path → motive path (.list l))
    (list : ∀ path l, Handle.list l ∉ path → (∀ v ∈ s.list l, motive (.list l :: path) v) →
      motive path (.list l))
    (enclosingMap : ∀ path m, Handle.map m ∈ path → motive path (.map m))
    (map : ∀ path m, Handle.map m ∉ path →
      (∀ e ∈ (s.map m).entries, motive (.map m :: path) e.2) → motive path (.map m))
    (path : List Handle) (v : Value) : motive path v := by
  induction path, v using unfoldAt.induct s with
  | case7 path l h => exact enclosingList path l (by simpa using h)
  | case8 path l h ih => exact list path l (by simpa using h) ih
  | case9 path m h => exact enclosingMap path m (by simpa using h)
  | case10 path m h ih => exact map path m (by simpa using h) ih
  | case13 path a b iha ihb => exact pair path a b iha ihb
  | _ => exact leaf _ _ rfl

/-! ## Walks as recursion -/

theorem unfoldAt_pair (path : List Handle) (a b : Value) :
    s.unfoldAt path (.pair a b) = .pair (s.unfoldAt path a) (s.unfoldAt path b) := by
  rw [unfoldAt]

/-- The lists of a path do not enclose a map. -/
theorem unfoldAt_map_of_lists (path : List Handle) (m : MapRef) :
    ∃ entries, s.unfoldAt (path.filter Handle.isList) (.map m) = .map entries := by
  have hout : (path.filter Handle.isList).contains (.map m) = false := by
    simp [Handle.isList]
  exact ⟨_, s.unfoldAt_map hout⟩

theorem filter_isList_cons (l : ListRef) (path : List Handle) :
    (Handle.list l :: path).filter Handle.isList = .list l :: path.filter Handle.isList := rfl

/-- Display does not enter maps, so only the lists of a path matter to it. -/
theorem run_displayWalk (path : List Handle) (v : Value) :
    (s.displayWalk v).run path =
      some ((s.unfoldAt (path.filter Handle.isList) v).display, path) := by
  induction path, v using s.path_induction with
  | leaf path v hv =>
    cases v with
    | list | map | pair => cases hv
    | _ => simp [displayWalk, unfoldAt, Tree.display]
  | pair path a b iha ihb => simp [displayWalk, unfoldAt_pair, Tree.display, iha, ihb]
  | enclosingList path l h =>
    have hin : (path.filter Handle.isList).contains (.list l) = true := by
      simp [h, Handle.isList]
    rw [s.unfoldAt_enclosingList hin, Tree.display]
    simp [displayWalk, h]
  | list path l h ih =>
    have hout : (path.filter Handle.isList).contains (.list l) = false := by
      simp [h]
    rw [filter_isList_cons] at ih
    have hall := Walk.run_mapM ih
    rw [s.unfoldAt_list hout, Tree.display, List.map_map]
    simp [displayWalk, h, hall, Function.comp_def]
  | enclosingMap path m h =>
    obtain ⟨entries, hentries⟩ := s.unfoldAt_map_of_lists path m
    rw [hentries, Tree.display, displayWalk]
    rfl
  | map path m h =>
    obtain ⟨entries, hentries⟩ := s.unfoldAt_map_of_lists path m
    rw [hentries, Tree.display, displayWalk]
    rfl

/-- Diagnostic text enters collections of both kinds. -/
theorem run_describeWalk (path : List Handle) (v : Value) :
    (s.describeWalk v).run path = some ((s.unfoldAt path v).describe, path) := by
  induction path, v using s.path_induction with
  | leaf path v hv =>
    cases v with
    | list | map | pair => cases hv
    | _ => simp [describeWalk, unfoldAt, Tree.describe]
  | pair path a b iha ihb => simp [describeWalk, unfoldAt_pair, Tree.describe, iha, ihb]
  | enclosingList path l h =>
    rw [s.unfoldAt_enclosingList (by simpa using h), Tree.describe]
    simp [describeWalk, h]
  | list path l h ih =>
    have hall := Walk.run_mapM ih
    rw [s.unfoldAt_list (by simpa using h), Tree.describe, List.map_map]
    simp [describeWalk, h, hall, Function.comp_def]
  | enclosingMap path m h =>
    rw [s.unfoldAt_enclosingMap (by simpa using h), Tree.describe]
    simp [describeWalk, h]
  | map path m h ih =>
    -- the name of an entry is written before its value is entered, and does not touch the stack
    have hentry : ∀ e ∈ (s.map m).entries,
        (do return Text.quoteString e.1 ++ ": " ++ (← s.describeWalk e.2) : Walk String).run
          (.map m :: path) =
        some (Text.quoteString e.1 ++ ": " ++ (s.unfoldAt (.map m :: path) e.2).describe,
          .map m :: path) := by
      intro e he
      simp [ih e he]
    have hall := Walk.run_mapM hentry
    simp only [bind_pure_comp] at hall
    rw [s.unfoldAt_map (by simpa using h), Tree.describe, List.map_map]
    simp [describeWalk, h, hall, Function.comp_def]

/-- The number of a value enters lists only, and of those the ones with a single item. -/
theorem run_numberWalk (path : List Handle) (v : Value) :
    (s.numberWalk v).run path =
      some ((s.unfoldAt (path.filter Handle.isList) v).toNumber, path) := by
  induction path, v using s.path_induction with
  | leaf path v hv =>
    cases v with
    | list | map | pair => cases hv
    | _ => simp [numberWalk, unfoldAt, Tree.toNumber]
  | pair path a b => simp [numberWalk, unfoldAt_pair, Tree.toNumber]
  | enclosingList path l h =>
    have hin : (path.filter Handle.isList).contains (.list l) = true := by
      simp [h, Handle.isList]
    rw [s.unfoldAt_enclosingList hin, Tree.toNumber]
    simp [numberWalk, h]
  | list path l h ih =>
    have hout : (path.filter Handle.isList).contains (.list l) = false := by
      simp [h]
    rw [filter_isList_cons] at ih
    rw [s.unfoldAt_list hout]
    -- the stack is pushed for a single item only
    rcases hitems : s.list l with _ | ⟨v, _ | ⟨w, rest⟩⟩
    · simp [numberWalk, h, hitems, Tree.toNumber]
    · have hitem := ih v (by simp [hitems])
      simp [numberWalk, h, hitems, Tree.toNumber, hitem]
    · simp [numberWalk, h, hitems, Tree.toNumber]
  | enclosingMap path m h =>
    obtain ⟨entries, hentries⟩ := s.unfoldAt_map_of_lists path m
    rw [hentries]
    simp [numberWalk, Tree.toNumber]
  | map path m h =>
    obtain ⟨entries, hentries⟩ := s.unfoldAt_map_of_lists path m
    rw [hentries]
    simp [numberWalk, Tree.toNumber]

/-- Each text or number of a value is read off its unfolding. -/
theorem display_eq (v : Value) : s.display v = (s.unfold v).display :=
  Walk.outcome_eq (s.run_displayWalk [] v)

theorem display_string (t : String) : s.display (.string t) = t := by
  rw [display_eq, unfold, unfoldAt, Tree.display]

example : (⟨#[[.int 1, .list ⟨0⟩]], #[]⟩ : Store).display (.list ⟨0⟩) = "1," := by cbv

theorem describe_eq (v : Value) : s.describe v = (s.unfold v).describe :=
  Walk.outcome_eq (s.run_describeWalk [] v)

theorem number_eq (v : Value) : s.number v = (s.unfold v).toNumber :=
  Walk.outcome_eq (s.run_numberWalk [] v)

end Store

end ScriptRealm
