import ScriptRealm.Proofs.Collection.Coherence
import ScriptRealm.Proofs.Text.Splitting

/-!
# Positions in strings

The members of strings that tell or take a position count characters, of whatever width in UTF-8.
-/

namespace ScriptRealm

/-! ## Members of strings -/

namespace Context

variable (hostObjectName : String) (host : Host) (converter : Converter) (config : Config)
  (answer : (q : Query) → Machine → Ending q.Answer) (m : Machine)

theorem run_read_length_string (hkey : config.tableKey = .member) (s : String) :
    ((core hostObjectName host converter config).read (.string s) (.string "length")
      .identity).run answer m = .returned (.found (.count s.length)) m := by
  have hread : (core hostObjectName host converter config).read (.string s) (.string "length")
      .identity = Accessor.foundBy .identity (Builtin.Text.length (.string s)) :=
    read_property_core hostObjectName host converter config hkey (by simp) rfl .identity rfl rfl
  rw [hread, Accessor.run_foundBy, ← String.length_toList]
  rfl

theorem run_indexOf_string (hkey : config.tableKey = .member) (s t : String) :
    ((core hostObjectName host converter config).invoke (.string s) (.string "indexOf")
      [.string t] .identity).run answer m =
      .returned (.found (((Text.position? t.toList s.toList).map Value.count).getD (.int (-1))))
        m := by
  have hrole := classify_core hostObjectName host converter config (v := .string s) (by simp)
  have hcall : Builtin.callables hostObjectName .string "indexOf" =
      [.method Builtin.Text.indexOf] := rfl
  have hrun : (Builtin.Text.indexOf (.string s) [.string t]).run answer m =
      .returned (((Text.position? t.toList s.toList).map Value.count).getD (.int (-1))) m := by
    have ht : Builtin.Text.chars (Value.argument [.string t] 0) = pure t.toList := rfl
    rw [Builtin.Text.indexOf, ht, Program.run_bind_eq, Builtin.Text.chars, Program.run_pure,
      Ending.returned_andThen, Program.run_bind_eq, Program.run_pure, Ending.returned_andThen]
    cases Text.position? t.toList s.toList <;> rfl
  rw [run_invoke_method answer m hkey rfl hrole hcall, hrun]
  rfl

/-- A key with a position finds the character at that position, or nothing beyond the last one. -/
theorem run_charAt (hkey : config.tableKey = .member) (s : String) {key : Value} {i : Nat}
    (hindex : key.index? = some i) :
    ((core hostObjectName host converter config).invoke (.string s) (.string "charAt") [key]
      .identity).run answer m =
      .returned (.found (Builtin.Text.text s.toList[i]?.toList)) m := by
  have hrole := classify_core hostObjectName host converter config (v := .string s) (by simp)
  have hcall : Builtin.callables hostObjectName .string "charAt" =
      [.method Builtin.Text.charAt] := rfl
  have hrun : (Builtin.Text.charAt (.string s) [key]).run answer m =
      .returned (Builtin.Text.text s.toList[i]?.toList) m := by
    obtain ⟨n, rfl⟩ := Value.exists_number_of_index? hindex
    have hargument : Value.argument [.number n] 0 = .number n := rfl
    simp only [Builtin.Text.charAt, hargument, hindex]
    rfl
  rw [run_invoke_method answer m hkey rfl hrole hcall, hrun]
  rfl

end Context

/-! ## Positions -/

namespace Text

/-- The number that stands for the result of a search. It tells the position of the first
occurrence, and -1 if there is none. -/
theorem exists_position (needle : List Char) {s : List Char}
    (hsize : s.length < 9223372036854775808) :
    ∃ i : Int64, ((position? needle s).map Value.count).getD (.int (-1)) = .number (.integer i) ∧
      (i.toInt = -1 ↔ ∀ p, ¬needle <+: s.drop p) ∧
      ∀ p : Nat, i.toInt = p ↔ FirstAt needle s p := by
  have hsome := position?_eq_some_iff needle s
  have hnone := position?_eq_none_iff needle s
  cases hindex : position? needle s with
  | none =>
    -- the answer is no position, because positions are not negative
    have hminus : (Int64.ofInt (-1)).toInt = -1 := by decide
    refine ⟨Int64.ofInt (-1), rfl, ?_, fun p => ?_⟩
    · simpa [hminus] using hnone.1 hindex
    · rw [← hsome, hindex, hminus]
      simp only [reduceCtorEq]
  | some q =>
    -- an occurrence lies inside of the text, so its position fits as the length does
    have hq := (hsome q).1 hindex
    have hle := hq.add_length_le
    obtain ⟨i, hcount, hi⟩ := Value.count_eq (by omega : q < 9223372036854775808)
    refine ⟨i, hcount, ?_, fun p => ?_⟩
    · rw [hi, ← hnone, hindex]
      simp only [reduceCtorEq]
    · rw [hi, ← hsome, hindex, Option.some.injEq, Int.natCast_inj]

/-- The text of a character, or of none beyond the end. -/
theorem text_getElem?_eq_empty_iff (s : List Char) (i : Nat) :
    String.ofList s[i]?.toList = "" ↔ s.length ≤ i := by
  rw [← List.getElem?_eq_none_iff]
  cases s[i]? <;> simp

theorem partValues_empty (s : String) :
    partValues "" s = s.toList.map fun c => Builtin.Text.text [c] := by
  simp [partValues, parts, Builtin.Text.text, Function.comp_def]

end Text

/-- The members of a string count characters alike. The length is the number of characters.
`indexOf` tells the first position from which the characters go on with those of the other string,
and -1 exactly if there is none. An occurrence lies inside of the string, `charAt` finds its
characters in their places, and the bytes before its position reach to the first occurrence in the
bytes. `charAt` finds the empty string exactly for positions from the length on. Cutting at the
empty string gives as many parts as there are characters, and each is what `charAt` finds at its
position. The bound says that positions fit into 63 bits, as they do for every string in memory. -/
theorem string_positions_agree (hostObjectName : String) (host : Host) (converter : Converter)
    (config : Config) (hkey : config.tableKey = .member)
    (answer : (q : Query) → Machine → Ending q.Answer) (m : Machine) (s t : String)
    (hsize : s.length < 9223372036854775808) :
    let ctx := Context.core hostObjectName host converter config
    let call (method : String) (arg : Value) :=
      (ctx.invoke (.string s) (.string method) [arg] .identity).run answer m
    (ctx.read (.string s) (.string "length") .identity).run answer m =
      .returned (.found (.count s.length)) m ∧
    (∃ i : Int64, call "indexOf" (.string t) = .returned (.found (.number (.integer i))) m ∧
      (i.toInt = -1 ↔ ∀ p, ¬t.toList <+: s.toList.drop p) ∧
      (∀ p : Nat, i.toInt = p ↔ Text.FirstAt t.toList s.toList p) ∧
      (∀ k : Nat, Text.FirstAt t.toUTF8.data.toList s.toUTF8.data.toList k ↔
        ∃ p : Nat, i.toInt = p ∧ k = (String.ofList (s.toList.take p)).utf8ByteSize) ∧
      ∀ p : Nat, i.toInt = p → p + t.length ≤ s.length ∧
        ∀ (j : Nat) (c : Char) (key : Value), t.toList[j]? = some c → key.index? = some (p + j) →
          call "charAt" key = .returned (.found (.string (String.ofList [c]))) m) ∧
    (∀ (key : Value) (i : Nat), key.index? = some i →
      ∃ text, call "charAt" key = .returned (.found (.string text)) m ∧
        (text = "" ↔ s.length ≤ i)) ∧
    ∃ (l : ListRef) (m₁ : Machine),
      call "split" (.string "") = .returned (.found (.list l)) m₁ ∧
      (m₁.store.list l).length = s.length ∧
      ∀ (key : Value) (i : Nat), key.index? = some i → i < s.length →
        ∃ part, (m₁.store.list l)[i]? = some part ∧
          call "charAt" key = .returned (.found part) m := by
  intro ctx call
  have hchars : s.toList.length < 9223372036854775808 := by rwa [String.length_toList]
  -- all that is said of `charAt` goes back to one run of it
  have hcharAt : ∀ (key : Value) (i : Nat), key.index? = some i → call "charAt" key =
      .returned (.found (Builtin.Text.text s.toList[i]?.toList)) m := fun key i hindex =>
    Context.run_charAt hostObjectName host converter config answer m hkey s hindex
  refine ⟨Context.run_read_length_string hostObjectName host converter config answer m hkey s, ?_,
    fun key i hindex => ⟨_, hcharAt key i hindex, ?_⟩, ?_⟩
  · obtain ⟨i, hi, hnone, hfirst⟩ := Text.exists_position t.toList hchars
    have hindexOf : call "indexOf" (.string t) = .returned (.found (.number (.integer i))) m := by
      rw [← hi]
      exact Context.run_indexOf_string hostObjectName host converter config answer m hkey s t
    refine ⟨i, hindexOf, hnone, hfirst, fun k => ?_, fun p hp => ?_⟩
    · -- in bytes, an occurrence begins where the bytes before it end
      rw [← Text.bytes_toList, ← Text.bytes_toList, Text.firstAt_bytes_iff]
      refine exists_congr fun p => ?_
      rw [Text.utf8ByteSize_ofList, hfirst, and_comm]
    · -- the characters from a first occurrence on are those of the needle
      have hoccurs := (hfirst p).1 hp
      have hle := hoccurs.add_length_le
      rw [String.length_toList, String.length_toList] at hle
      refine ⟨hle, fun j c key hc hindex => ?_⟩
      obtain ⟨hj, -⟩ := List.getElem?_eq_some_iff.1 hc
      rw [hcharAt key _ hindex, hoccurs.getElem?_eq hj, hc]
      rfl
  · rw [Text.text_getElem?_eq_empty_iff, String.length_toList]
  · -- the split at nothing makes a fresh list of the single characters
    have hsplit := Context.run_split hostObjectName host converter config hkey answer m s ""
    have hlist : (m.newList (Text.partValues "" s)).store.list
        (m.store.newList (Text.partValues "" s)).1 =
        s.toList.map fun c => Builtin.Text.text [c] :=
      (m.store.list_newList_self _).trans (Text.partValues_empty s)
    refine ⟨_, _, hsplit, ?_, fun key i hindex hi => ?_⟩
    · rw [hlist, List.length_map, String.length_toList]
    · have hlt : i < s.toList.length := by rwa [String.length_toList]
      refine ⟨Builtin.Text.text [s.toList[i]], ?_, ?_⟩
      · rw [hlist, List.getElem?_map, List.getElem?_eq_getElem hlt]
        rfl
      · rw [hcharAt key i hindex, List.getElem?_eq_getElem hlt]
        rfl

/-- Characters of two and four bytes come before the one that is searched for. -/
theorem string_positions_agree_wide :
    let ctx := Context.core "HostObject" .empty .standard .standard
    let s := String.ofList ['é', '𝄞', 'b']
    let t := String.ofList ['b']
    let call (method : String) (arg : Value) :=
      (ctx.invoke (.string s) (.string method) [arg] .identity).run (ctx.answer 1) default
    (Config.standard.tableKey = .member ∧ s.length < 9223372036854775808) ∧
      ∃ i : Int64, call "indexOf" (.string t) =
          .returned (.found (.number (.integer i))) default ∧
        i.toInt = 2 ∧ Text.FirstAt t.toUTF8.data.toList s.toUTF8.data.toList 6 ∧
        call "charAt" (.int 2) = .returned (.found (.string t)) default := by
  intro ctx s t call
  have hchars : s.toList = ['é', '𝄞', 'b'] := String.toList_ofList
  have hneedle : t.toList = ['b'] := String.toList_ofList
  have hsize : s.length < 9223372036854775808 := by
    rw [← String.length_toList, hchars]
    decide
  obtain ⟨-, ⟨i, hindexOf, -, hfirst, hbytes, hplaces⟩, -⟩ :=
    string_positions_agree "HostObject" .empty .standard .standard rfl (ctx.answer 1) default s t
      hsize
  have hi : i.toInt = (2 : Nat) := by
    rw [hfirst, hchars, hneedle, ← Text.position?_eq_some_iff]
    decide
  refine ⟨⟨rfl, hsize⟩, i, hindexOf, hi, (hbytes 6).2 ⟨2, hi, ?_⟩, ?_⟩
  · rw [hchars, Text.utf8ByteSize_ofList]
    decide
  · exact (hplaces 2 hi).2 0 'b' (.int 2) (by rw [hneedle]; rfl) rfl

end ScriptRealm
