import ScriptRealm.Proofs.Collection.Rendering
import ScriptRealm.Proofs.Dispatch.Methods
import ScriptRealm.Proofs.Text.Occurrences
import ScriptRealm.Proofs.Value.Enclosed

/-!
# Splitting and joining

A text is cut at the first occurrence of a separator, and so is what follows it. The parts joined by
the separator give the text again, and none of them has the separator in it.
-/

namespace ScriptRealm

namespace Text

/-! ## Cuts -/

section

variable {separator s r : List Char} {c : Char} {p : Nat}

theorem splitAfter_cons_of_isPrefix (hne : separator ≠ []) (h : separator <+: c :: r)
    (part : List Char) :
    splitAfter separator part (c :: r) =
      part.reverse :: split separator ((c :: r).drop separator.length) := by
  obtain ⟨d, rest, rfl⟩ := List.exists_cons_of_ne_nil hne
  rw [splitAfter, dif_pos ⟨hne, List.isPrefixOf_iff_prefix.2 h⟩]
  rfl

theorem splitAfter_cons_of_not_isPrefix (h : ¬separator <+: c :: r) (part : List Char) :
    splitAfter separator part (c :: r) = splitAfter separator (c :: part) r := by
  rw [splitAfter, dif_neg fun hin => h (List.isPrefixOf_iff_prefix.1 hin.2)]

/-- The first part ends at the first occurrence, and the rest is cut in the same way. -/
theorem splitAfter_of_firstAt (hne : separator ≠ []) (h : FirstAt separator s p)
    (part : List Char) :
    splitAfter separator part s =
      (part.reverse ++ s.take p) :: split separator (s.drop (p + separator.length)) := by
  -- what has been read of the part grows with each character that is passed
  induction s generalizing part p with
  | nil => exact absurd (by simpa using h.occurs) hne
  | cons c r ih =>
    by_cases hbegins : separator <+: c :: r
    · obtain rfl := h.unique (firstAt_zero hbegins)
      rw [splitAfter_cons_of_isPrefix hne hbegins, List.take_zero, List.append_nil, Nat.zero_add]
    · cases p with
      | zero => exact absurd h.occurs hbegins
      | succ p =>
        rw [splitAfter_cons_of_not_isPrefix hbegins, ih ((firstAt_succ_iff hbegins).1 h),
          List.reverse_cons, List.append_assoc, List.singleton_append, List.take_succ_cons,
          Nat.add_right_comm, List.drop_succ_cons]

/-- Where there is no occurrence, nothing is cut. -/
theorem splitAfter_of_no_occurrence (h : ∀ p, ¬separator <+: s.drop p) (part : List Char) :
    splitAfter separator part s = [part.reverse ++ s] := by
  induction s generalizing part with
  | nil => rw [splitAfter, List.append_nil]
  | cons c r ih =>
    rw [splitAfter_cons_of_not_isPrefix (h 0), ih fun p => h (p + 1), List.reverse_cons,
      List.append_assoc, List.singleton_append]

/-- A text is left whole, or cut at the first occurrence of the separator. -/
theorem split_cases (hne : separator ≠ []) (s : List Char) :
    (split separator s = [s] ∧ ∀ p, ¬separator <+: s.drop p) ∨
    ∃ p, FirstAt separator s p ∧
      split separator s = s.take p :: split separator (s.drop (p + separator.length)) := by
  cases hindex : indexOf? separator s with
  | none =>
    have hnone := (indexOf?_eq_none_iff separator s).1 hindex
    exact .inl ⟨splitAfter_of_no_occurrence hnone [], hnone⟩
  | some p =>
    have hfirst := (indexOf?_eq_some_iff separator s p).1 hindex
    exact .inr ⟨p, hfirst, splitAfter_of_firstAt hne hfirst []⟩

end

/-! ## What the parts are -/

theorem FirstAt.length_drop_lt {separator s : List Char} {p : Nat} (hne : separator ≠ [])
    (h : FirstAt separator s p) : (s.drop (p + separator.length)).length < s.length := by
  have hpos := List.length_pos_iff.2 hne
  have hle := h.add_length_le
  rw [List.length_drop]
  omega

/-- What follows an occurrence, with the separator and what comes before it. -/
theorem FirstAt.take_append_drop {separator s : List Char} {p : Nat}
    (h : FirstAt separator s p) :
    s.take p ++ separator ++ s.drop (p + separator.length) = s := by
  have hdrop := List.prefix_iff_eq_append.1 h.occurs
  rw [List.drop_drop] at hdrop
  rw [List.append_assoc, hdrop, List.take_append_drop]

theorem split_ne_nil {separator : List Char} (hne : separator ≠ []) (s : List Char) :
    split separator s ≠ [] := by
  rcases split_cases hne s with ⟨hwhole, -⟩ | ⟨p, -, hcut⟩
  · rw [hwhole]
    exact List.cons_ne_nil _ _
  · rw [hcut]
    exact List.cons_ne_nil _ _

/-- With the separator between them, the parts are the text again. -/
theorem intercalate_split {separator : List Char} (hne : separator ≠ []) (s : List Char) :
    separator.intercalate (split separator s) = s := by
  -- what follows an occurrence is shorter
  induction hlength : s.length using Nat.strongRecOn generalizing s with
  | ind n ih =>
    subst hlength
    rcases split_cases hne s with ⟨hwhole, -⟩ | ⟨p, hfirst, hcut⟩
    · rw [hwhole, List.intercalate_singleton]
    · rw [hcut, List.intercalate_cons_of_ne_nil (split_ne_nil hne _),
        ih _ (hfirst.length_drop_lt hne) _ rfl, hfirst.take_append_drop]

/-- A text that has another one in it has it from one of its positions on. -/
theorem exists_isPrefix_drop_of_isInfix {separator s : List Char} (hne : separator ≠ [])
    (h : separator <:+: s) : ∃ p < s.length, separator <+: s.drop p := by
  obtain ⟨before, after, rfl⟩ := h
  have hpos := List.length_pos_iff.2 hne
  refine ⟨before.length, ?_, ?_⟩
  · simp only [List.length_append]
    omega
  · rw [List.append_assoc, List.drop_left]
    exact List.prefix_append separator after

/-- No part has the separator in it. -/
theorem not_isInfix_of_mem_split {separator s part : List Char} (hne : separator ≠ [])
    (hpart : part ∈ split separator s) : ¬separator <:+: part := by
  induction hlength : s.length using Nat.strongRecOn generalizing s with
  | ind n ih =>
    subst hlength
    intro hwithin
    obtain ⟨k, hk, hbegins⟩ := exists_isPrefix_drop_of_isInfix hne hwithin
    rcases split_cases hne s with ⟨hwhole, hnone⟩ | ⟨p, hfirst, hcut⟩
    · rw [hwhole, List.mem_singleton] at hpart
      exact hnone k (hpart ▸ hbegins)
    · rw [hcut, List.mem_cons] at hpart
      rcases hpart with rfl | hrest
      · -- an occurrence in the first part would come before the first one
        rw [List.length_take] at hk
        rw [List.drop_take] at hbegins
        exact hfirst.least k (by omega) (hbegins.trans (List.take_prefix _ _))
      · exact ih _ (hfirst.length_drop_lt hne) hrest rfl hwithin

/-! ## All separators -/

/-- The parts of a text for any separator. At an empty one, all characters are cut apart. -/
def parts (separator s : List Char) : List (List Char) :=
  if separator.isEmpty then s.map ([·]) else split separator s

theorem intercalate_parts (separator s : List Char) :
    separator.intercalate (parts separator s) = s := by
  cases separator with
  | nil =>
    have hsingles : ∀ s, parts [] s = s.map ([·]) := fun _ => rfl
    induction s with
    | nil => rfl
    | cons c r ih =>
      cases r with
      | nil => rfl
      | cons d r =>
        rw [hsingles, List.map_cons, List.intercalate_cons_of_ne_nil (by simp), ← hsingles, ih,
          List.append_nil, List.singleton_append]
  | cons c rest => exact intercalate_split (List.cons_ne_nil c rest) s

theorem join_parts (separator s : String) :
    join separator ((parts separator.toList s.toList).map String.ofList) = s := by
  rw [join_eq_intercalate, ← String.toList_inj, String.toList_intercalate, List.map_map]
  simp [Function.comp_def, intercalate_parts]

end Text

/-! ## The methods -/

/-- The items that the method `split` makes of a text. -/
def Text.partValues (separator s : String) : List Value :=
  ((parts separator.toList s.toList).map String.ofList).map .string

namespace Context

variable (hostObjectName : String) (host : Host) (converter : Converter) (config : Config)

/-- The method `split` makes a list of the parts. -/
theorem run_split (hkey : config.tableKey = .member)
    (answer : (q : Query) → Machine → Ending q.Answer) (m : Machine) (s separator : String) :
    ((core hostObjectName host converter config).invoke (.string s) (.string "split")
      [.string separator] .identity).run answer m =
      .returned (.found (.list (m.store.newList (Text.partValues separator s)).1))
        (m.newList (Text.partValues separator s)) := by
  have hrole := classify_core hostObjectName host converter config (v := .string s) (by simp)
  have hcall :
      Builtin.callables hostObjectName .string "split" = [.method Builtin.Text.split] := rfl
  have hparts : Text.partValues separator s =
      (Text.parts separator.toList s.toList).map Builtin.Text.text := List.map_map
  rw [run_invoke_method answer m hkey rfl hrole hcall, hparts]
  rfl

/-- The method `join` on a list of strings joins just these. -/
theorem run_join_strings (hkey : config.tableKey = .member) (depth : Nat) (m : Machine)
    {l : ListRef} {texts : List String} (hl : m.store.list l = texts.map .string)
    (separator : String) :
    let ctx := core hostObjectName host converter config
    (ctx.invoke (.list l) (.string "join") [.string separator] .identity).run
        (ctx.answer (depth + 1)) m =
      .returned (.found (.string (Text.join separator texts))) m := by
  intro ctx
  have hrole : ctx.classify (.list l) = Builtin.roleId .array :=
    classify_collection hostObjectName host converter config (.list l)
  have hcall : Builtin.callables hostObjectName .array "join" =
      [.method Builtin.Sequence.join] := rfl
  have hvalues : ctx.answer (depth + 1) (.view .values (.list l)) m = .returned l m :=
    (answer_view_core hostObjectName host converter config depth hrole .values m).trans rfl
  have hdisplay := m.store.display_string
  have hitem : ∀ t, m.store.itemText (.list l) (.string t) = t := hdisplay
  have hseparator : m.store.separator [.string separator] = separator := hdisplay separator
  have htexts : (m.store.list l).map (m.store.itemText (.list l)) = texts := by
    rw [hl, List.map_map]
    exact (List.map_congr_left fun t _ => hitem t).trans (List.map_id texts)
  have hjoin := Builtin.Sequence.run_join
    (displaysGenerically_core hostObjectName host converter config) depth hvalues
    [.string separator]
  rw [hseparator, htexts] at hjoin
  refine (run_invoke_method _ m hkey rfl hrole hcall _).trans ?_
  rw [hjoin]
  rfl

end Context

/-- Cutting a string at any separator gives a list of strings, and joining the list with that
separator gives the string again. No part has the separator in it, unless that is the empty string.
-/
theorem join_split_eq (hostObjectName : String) (host : Host) (converter : Converter)
    (config : Config) (hkey : config.tableKey = .member) (depth : Nat) (m : Machine)
    (s separator : String) :
    let ctx := Context.core hostObjectName host converter config
    let call (this : Value) (method : String) :=
      (ctx.invoke this (.string method) [.string separator] .identity).run (ctx.answer (depth + 1))
    ∃ (l : ListRef) (m₁ : Machine) (texts : List String),
      call (.string s) "split" m = .returned (.found (.list l)) m₁ ∧
      m₁.store.list l = texts.map .string ∧
      call (.list l) "join" m₁ = .returned (.found (.string s)) m₁ ∧
      (separator ≠ "" → ∀ text ∈ texts, ¬separator.toList <:+: text.toList) := by
  intro ctx call
  let texts := (Text.parts separator.toList s.toList).map String.ofList
  have hsplit := Context.run_split hostObjectName host converter config hkey
    (ctx.answer (depth + 1)) m s separator
  have hlist : (m.newList (Text.partValues separator s)).store.list
      (m.store.newList (Text.partValues separator s)).1 = texts.map .string :=
    m.store.list_newList_self _
  have hjoin := Context.run_join_strings hostObjectName host converter config hkey depth _ hlist
    separator
  rw [Text.join_parts] at hjoin
  refine ⟨_, _, texts, hsplit, hlist, hjoin, fun hne text htext => ?_⟩
  have hchars : separator.toList ≠ [] := by simpa using hne
  have hcut : Text.parts separator.toList s.toList = Text.split separator.toList s.toList :=
    if_neg (by simpa using hchars)
  obtain ⟨part, hpart, rfl⟩ := List.mem_map.1 htext
  rw [hcut] at hpart
  rw [String.toList_ofList]
  exact Text.not_isInfix_of_mem_split hchars hpart

/-- Two separators in a row, and one at the end. -/
theorem join_split_eq_adjacent :
    let ctx := Context.core "HostObject" .empty .standard .standard
    let call (this : Value) (method : String) :=
      (ctx.invoke this (.string method) [.string "-"] .identity).run (ctx.answer 1)
    Config.standard.tableKey = .member ∧
      ∃ (l : ListRef) (m₁ : Machine),
        call (.string "a--b-") "split" default = .returned (.found (.list l)) m₁ ∧
        call (.list l) "join" m₁ = .returned (.found (.string "a--b-")) m₁ := by
  intro ctx call
  obtain ⟨l, m₁, -, hsplit, -, hjoin, -⟩ :=
    join_split_eq "HostObject" .empty .standard .standard rfl 0 default "a--b-" "-"
  exact ⟨rfl, l, m₁, hsplit, hjoin⟩

end ScriptRealm
