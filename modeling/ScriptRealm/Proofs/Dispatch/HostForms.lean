import ScriptRealm.Proofs.Collection.Coherence
import ScriptRealm.Proofs.Dispatch.Characters
import ScriptRealm.Proofs.Number.RoundTrip

/-!
# Host forms

What the standard converter makes of a value for a host type. Such a form has the shape that the
type names and is its own form from then on, and a value has the same forms as what scripts see of
it. Only a list that is made of a pair or an iterable is a new one each time.
-/

namespace ScriptRealm

/-! ## Shapes -/

/-- The values of the shape that a host type names. -/
inductive HostType.Names : HostType → Value → Prop where
  | boolean (b : Bool) : Names .boolean (.boolean b)
  | integer (i : Int64) : Names .integer (.number (.integer i))
  | float {n : Number} (h : n.isNaN = false) : Names .float (.number n)
  | text (s : String) : Names .text (.string s)
  | char (c : Char) : Names .char (.char c)
  | list (l : ListRef) : Names .list (.list l)
  | map (r : MapRef) : Names .map (.map r)

/-- A value that holds no number but one in normal form. -/
def Value.IsNormal (v : Value) : Prop :=
  ∀ n, v = .number n → n.IsNormal

/-- The number that a scalar is read as. -/
inductive Value.ReadsAs : Value → Number → Prop where
  | number (n : Number) : ReadsAs (.number n) n
  | string (s : String) : ReadsAs (.string s) (.ofText s)
  | char (c : Char) : ReadsAs (.char c) (.ofText (String.ofList [c]))

namespace Value

theorem readsAs_string_iff {s : String} {n : Number} : (string s).ReadsAs n ↔ n = .ofText s := by
  refine ⟨fun h => ?_, fun h => h ▸ .string s⟩
  cases h
  rfl

theorem readsAs_char_iff {c : Char} {n : Number} :
    (char c).ReadsAs n ↔ n = .ofText (String.ofList [c]) := by
  refine ⟨fun h => ?_, fun h => h ▸ .char c⟩
  cases h
  rfl

theorem SameText.readsAs_iff {v w : Value} (h : SameText v w) (n : Number) :
    w.ReadsAs n ↔ v.ReadsAs n := by
  cases h with
  | refl => rfl
  | char c => rw [readsAs_string_iff, readsAs_char_iff]

end Value

namespace Converter

variable {answer : (q : Query) → Machine → Ending q.Answer} {v w : Value} {n : Number}
  {target : HostType} {m m' : Machine}

theorem numeric?_eq_some_iff : numeric? v = some n ↔ v.ReadsAs n ∧ n ≠ .nan := by
  have hread : ∀ k : Number, (if k = .nan then none else some k) = some n → k = n ∧ n ≠ .nan := by
    intro k h
    split at h
    · cases h
    · obtain rfl : k = n := Option.some.inj h
      exact ⟨rfl, ‹_›⟩
  constructor
  · intro h
    cases v with
    | number k =>
      obtain ⟨rfl, hnan⟩ := hread k h
      exact ⟨.number k, hnan⟩
    | string s =>
      obtain ⟨rfl, hnan⟩ := hread (.ofText s) h
      exact ⟨.string s, hnan⟩
    | char c =>
      obtain ⟨rfl, hnan⟩ := hread (.ofText (String.ofList [c])) h
      exact ⟨.char c, hnan⟩
    | _ =>
      obtain ⟨rfl, hnan⟩ := hread .nan h
      exact absurd rfl hnan
  · rintro ⟨hread, hnan⟩
    cases hread <;> exact if_neg hnan

/-! ## What conversions give -/

/-- The host form of a value for a type, and the machine on which it is there. -/
inductive Gives (answer : (q : Query) → Machine → Ending q.Answer) (v : Value) (m : Machine) :
    HostType → Value → Machine → Prop where
  | boolean : Gives answer v m .boolean (.boolean v.truth) m
  | integer {i : Int64} (h : v.ReadsAs (.integer i)) :
      Gives answer v m .integer (.number (.integer i)) m
  | float {n : Number} (h : v.ReadsAs n) (hnan : n ≠ .nan) : Gives answer v m .float (.number n) m
  | text : Gives answer v m .text (.string (m.store.display v)) m
  | char {c : Char} (h : v.memberName? = some (String.ofList [c])) :
      Gives answer v m .char (.char c) m
  | list {l : ListRef} (h : v = .list l) : Gives answer v m .list (.list l) m
  | pair {a b : Value} (h : v = .pair a b) :
      Gives answer v m .list (.list (m.store.newList [a, b]).1) (m.newList [a, b])
  | iterable {i : IterableRef} {items : List Value} {m' : Machine} (h : v = .iterable i)
      (hdrain : answer (.drain i) m = .returned items m') :
      Gives answer v m .list (.list (m'.store.newList items).1) (m'.newList items)
  | map {r : MapRef} (h : v = .map r) : Gives answer v m .map (.map r) m

theorem not_run_refuse (h : (refuse v target).run answer m = .returned w m') : False := by
  simp [refuse] at h

theorem run_convert_of_gives (h : Gives answer v m target w m') :
    (convert v target).run answer m = .returned w m' := by
  cases h with
  | boolean => rfl
  | @integer i hread =>
    have hnumber : numeric? v = some (.integer i) := numeric?_eq_some_iff.2 ⟨hread, by simp⟩
    simp [convert, hnumber]
  | float hread hnan => simp [convert, numeric?_eq_some_iff.2 ⟨hread, hnan⟩]
  | text => rfl
  | @char c hname =>
    cases v with
    | char d =>
      obtain rfl : d = c := by simpa [Value.memberName?] using hname
      rfl
    | string s =>
      obtain rfl : s = String.ofList [c] := Option.some.inj hname
      simp [convert]
    | _ => cases hname
  | list hv => rw [hv]; rfl
  | pair hv => rw [hv]; rfl
  | iterable hv hdrain =>
    rw [hv]
    exact (Program.run_ask_bind hdrain _).trans rfl
  | map hv => rw [hv]; rfl

theorem gives_of_run_convert (h : (convert v target).run answer m = .returned w m') :
    Gives answer v m target w m' := by
  cases target with
  | boolean =>
    cases h
    exact .boolean
  | text =>
    cases h
    exact .text
  | integer =>
    -- a value that stands for no number, or for one that is not wanted, is refused
    simp only [convert] at h
    split at h
    · rename_i i hnumber
      cases h
      exact .integer (numeric?_eq_some_iff.1 hnumber).1
    · exact (not_run_refuse h).elim
  | float =>
    simp only [convert] at h
    split at h
    · rename_i n hnumber
      cases h
      obtain ⟨hread, hnan⟩ := numeric?_eq_some_iff.1 hnumber
      exact .float hread hnan
    · exact (not_run_refuse h).elim
  | char =>
    cases v with
    | char c =>
      cases h
      exact .char rfl
    | string s =>
      simp only [convert] at h
      split at h
      · rename_i c hs
        cases h
        exact .char (by rw [← hs]; simp [Value.memberName?])
      · exact (not_run_refuse h).elim
    | _ => exact (not_run_refuse h).elim
  | list =>
    cases v with
    | list l =>
      cases h
      exact .list rfl
    | pair a b =>
      cases h
      exact .pair rfl
    | iterable i =>
      -- the items come from the host, and the list is made after them
      simp only [convert, Program.run_bind_eq, Program.run_ask] at h
      obtain ⟨items, m₁, hdrain, hlist⟩ := Ending.andThen_eq_returned_iff.1 h
      cases hlist
      exact .iterable rfl hdrain
    | _ => exact (not_run_refuse h).elim
  | map =>
    cases v with
    | map r =>
      cases h
      exact .map rfl
    | _ => exact (not_run_refuse h).elim

/-- A conversion returns what the value gives, and nothing else. -/
theorem run_convert_eq_returned_iff :
    (convert v target).run answer m = .returned w m' ↔ Gives answer v m target w m' :=
  ⟨gives_of_run_convert, run_convert_of_gives⟩

namespace Gives

/-- A form has the shape that its type names, unless it is a NaN that the value holds itself. -/
theorem names_or (h : Gives answer v m target w m') :
    target.Names w ∨ target = .float ∧ w = v ∧ ¬v.IsNormal := by
  cases h with
  | boolean => exact .inl (.boolean _)
  | integer => exact .inl (.integer _)
  | @float n hread hnan =>
    by_cases hnumber : n.isNaN = false
    · exact .inl (.float hnumber)
    · -- what is read from a text is in normal form, so the value holds this NaN itself
      have hform : ¬n.IsNormal := fun hnormal => hnumber (hnormal.isNaN_eq_false hnan)
      cases hread with
      | number => exact .inr ⟨rfl, rfl, fun hnormal => hform (hnormal n rfl)⟩
      | string s => exact absurd (Number.isNormal_ofText s) hform
      | char c => exact absurd (Number.isNormal_ofText _) hform
  | text => exact .inl (.text _)
  | char => exact .inl (.char _)
  | list => exact .inl (.list _)
  | pair => exact .inl (.list _)
  | iterable => exact .inl (.list _)
  | map => exact .inl (.map _)

/-- A form is its own form, on every machine. -/
theorem again (h : Gives answer v m target w m') (m₁ : Machine) :
    Gives answer w m₁ target w m₁ := by
  cases h with
  | boolean => exact .boolean
  | integer => exact .integer (.number _)
  | float hread hnan => exact .float (.number _) hnan
  | text =>
    have hform : Gives answer (.string (m.store.display v)) m₁ .text
        (.string (m₁.store.display (.string (m.store.display v)))) m₁ := .text
    rwa [m₁.store.display_string] at hform
  | char => exact .char rfl
  | list => exact .list rfl
  | pair => exact .list rfl
  | iterable => exact .list rfl
  | map => exact .map rfl

/-- Only a list that is made of something else changes the machine. -/
theorem machine_eq_or (h : Gives answer v m target w m') :
    m' = m ∨ target = .list ∧ ∀ l, v ≠ .list l := by
  cases h with
  | pair hv => exact .inr ⟨rfl, fun l hl => by cases hv.symm.trans hl⟩
  | iterable hv => exact .inr ⟨rfl, fun l hl => by cases hv.symm.trans hl⟩
  | _ => exact .inl rfl

end Gives

/-- A character gives what its text gives. -/
theorem gives_iff_of_sameText {u : Value} (h : v.SameText w) :
    Gives answer w m target u m' ↔ Gives answer v m target u m' := by
  have htruth := h.truth_eq
  have hdisplay := h.display_eq m.store
  have hreads := h.readsAs_iff
  have hname := h.memberName?_eq
  cases h with
  | refl => rfl
  | char c =>
    constructor
    · intro hgives
      cases hgives with
      | boolean => rw [htruth]; exact .boolean
      | integer hread => exact .integer ((hreads _).1 hread)
      | float hread hnan => exact .float ((hreads _).1 hread) hnan
      | text => rw [hdisplay]; exact .text
      | char hc => exact .char (hname.symm.trans hc)
      | list hv | pair hv | map hv => cases hv
      | iterable hv => cases hv
    · intro hgives
      cases hgives with
      | boolean => rw [← htruth]; exact .boolean
      | integer hread => exact .integer ((hreads _).2 hread)
      | float hread hnan => exact .float ((hreads _).2 hread) hnan
      | text => rw [← hdisplay]; exact .text
      | char hc => exact .char (hname.trans hc)
      | list hv | pair hv | map hv => cases hv
      | iterable hv => cases hv

theorem sameText_widen (v : Value) : v.SameText (widen v) := by
  cases v with
  | char c => exact .char c
  | _ => exact .refl _

theorem widen_widen (v : Value) : widen (widen v) = widen v := by
  cases v <;> rfl

end Converter

/-! ## Lists made twice -/

/-- A list with some values that was not there before. -/
structure Machine.HasNewList (m m' : Machine) (l : ListRef) (items : List Value) : Prop where
  fresh : m.store.lists.size ≤ l.index
  lt_size : l.index < m'.store.lists.size
  list_eq : m'.store.list l = items

theorem Machine.Keeps.hasNewList {start : Nat} {m m' : Machine} (h : m.Keeps start m')
    (items : List Value) :
    m.HasNewList (m'.newList items) (m'.store.newList items).1 items where
  fresh := h.size_le
  lt_size := by simp [newList, Store.newList]
  list_eq := m'.store.list_newList_self items

namespace Context

variable {ctx : Context} {depth start d : Nat} {m : Machine} {v : Value} {items : List Value}

/-- The values of a pair or an iterable. An iterable has to yield the same ones each time. -/
inductive Spreads (ctx : Context) (depth start : Nat) : Value → List Value → Prop where
  | pair (a b : Value) : Spreads ctx depth start (.pair a b) [a, b]
  | iterable {i : IterableRef} {items : List Value} (hrestarts : ctx.Restarts depth start i items) :
      Spreads ctx depth start (.iterable i) items

/-- Each conversion to a list makes a new one, and leaves those made before as they are. -/
theorem Spreads.run_convert (h : ctx.Spreads depth start v items) (hd : depth < d)
    (hstart : start ≤ m.store.lists.size) :
    ∃ l m', (Converter.convert v .list).run (ctx.answer d) m = .returned (.list l) m' ∧
      m.HasNewList m' l items ∧ m.Keeps start m' := by
  cases h with
  | pair a b =>
    have hkeeps := Machine.Keeps.refl start m
    exact ⟨_, _, rfl, hkeeps.hasNewList [a, b], m.keeps_newList start [a, b]⟩
  | iterable hrestarts =>
    obtain ⟨m₁, hdrain, hkeeps⟩ := hrestarts.answer hd hstart
    exact ⟨_, _, Converter.run_convert_of_gives (.iterable rfl hdrain), hkeeps.hasNewList items,
      hkeeps.trans (m₁.keeps_newList start items)⟩

end Context

/-- Conversions under the standard converter. What a value is converted to has the shape that the
type names, but for a number that is not in normal form and is kept as it is. It is converted to
itself from then on, and the machine is left alone unless a list has to be made. The form that
scripts see stays as it is when it is converted again, and has just the same host forms as the
value. Of a pair, or of an iterable that starts anew each time, two conversions in a row make two
new lists of the same values. -/
theorem boundary_conversion_stable (realm : Realm) (host : Host) (config : Config) (d : Nat)
    (v : Value) :
    let ctx : Context := { realm, host, config }
    let toHost (target : HostType) (v : Value) (m : Machine) :=
      ctx.run (d + 1) ((Cast.toHost (some target)).apply v) m
    let toScript (v : Value) (m : Machine) := ctx.run (d + 1) (Cast.toScript.apply v) m
    (∀ target m w m', toHost target v m = .returned w m' →
      (target.Names w ∨ target = .float ∧ w = v ∧ ¬v.IsNormal) ∧
      (∀ m₁, toHost target w m₁ = .returned w m₁) ∧
      (m' = m ∨ target = .list ∧ ∀ l, v ≠ .list l)) ∧
    ∃ s, (∀ m, toScript v m = .returned s m ∧ toScript s m = .returned s m) ∧
      (∀ target m w m',
        toHost target s m = .returned w m' ↔ toHost target v m = .returned w m') ∧
      ∀ depth start items, ctx.Spreads depth start v items → depth < d →
        ∀ m : Machine, start ≤ m.store.lists.size →
          ∃ k l m₁ m₂, toHost .list v m = .returned (.list k) m₁ ∧
            toHost .list s m₁ = .returned (.list l) m₂ ∧
            m.HasNewList m₁ k items ∧ m₁.HasNewList m₂ l items ∧ m₂.store.list k = items := by
  intro ctx toHost toScript
  have hgives : ∀ {target v m w m'}, toHost target v m = .returned w m' ↔
      Converter.Gives (ctx.answer d) v m target w m' := by
    intro target v m w m'
    rw [← Converter.run_convert_eq_returned_iff]
    exact iff_of_eq (congrArg (· = _) (Context.run_cast_toHost rfl d m v target))
  have hscript : ∀ v m, toScript v m = .returned (Converter.widen v) m := fun v m =>
    Cast.run_apply (ctx.answer (d + 1)) .toScript v m
  have hsame : ∀ target m w m', toHost target (Converter.widen v) m = .returned w m' ↔
      toHost target v m = .returned w m' := by
    intro target m w m'
    rw [hgives, hgives]
    exact Converter.gives_iff_of_sameText (Converter.sameText_widen v)
  refine ⟨fun target m w m' h => ?_, Converter.widen v, fun m => ⟨hscript v m, ?_⟩, hsame,
    fun depth start items hspreads hd m hstart => ?_⟩
  · have hform := hgives.1 h
    exact ⟨hform.names_or, fun m₁ => hgives.2 (hform.again m₁), hform.machine_eq_or⟩
  · rw [hscript, Converter.widen_widen]
  · obtain ⟨k, m₁, hfirst, hk, hkeeps⟩ := hspreads.run_convert hd hstart
    obtain ⟨l, m₂, hsecond, hl, hkeeps'⟩ :=
      hspreads.run_convert hd (hstart.trans hkeeps.size_le)
    refine ⟨k, l, m₁, m₂, (Context.run_cast_toHost rfl d m v .list).trans hfirst,
      (hsame ..).2 ((Context.run_cast_toHost rfl d m₁ v .list).trans hsecond), hk, hl, ?_⟩
    -- the first list is among those that the second conversion leaves alone
    exact (hkeeps'.list k (hstart.trans hk.fresh) hk.lt_size).trans hk.list_eq

/-- A text with blanks around it is an integer for the host, and the iterable that counts is listed
anew by each conversion, though it leaves traces elsewhere. -/
theorem boundary_conversion_stable_counting :
    let ctx : Context := { realm := .core "HostObject", host := .counting, config := .standard }
    let toHost (target : HostType) (v : Value) (m : Machine) :=
      ctx.run 2 ((Cast.toHost (some target)).apply v) m
    let m : Machine := ⟨⟨#[[]], #[]⟩, #[]⟩
    (toHost .integer (.string " 42 ") m = .returned (.int 42) m ∧
      HostType.integer.Names (.int 42) ∧ toHost .integer (.int 42) m = .returned (.int 42) m) ∧
    ∃ k l m₁ m₂, toHost .list (.iterable ⟨0⟩) m = .returned (.list k) m₁ ∧
      toHost .list (.iterable ⟨0⟩) m₁ = .returned (.list l) m₂ ∧
      k ≠ l ∧ m₂.store.list k = [.int 7, .int 8] ∧ m₂.store.list l = [.int 7, .int 8] := by
  intro ctx toHost m
  constructor
  · have hread : Number.ofText " 42 " = .integer 42 := by decide +kernel
    have hrun : toHost .integer (.string " 42 ") m = .returned (.int 42) m :=
      (Context.run_cast_toHost rfl 1 m _ .integer).trans
        (Converter.run_convert_of_gives (.integer (Value.readsAs_string_iff.2 hread.symm)))
    obtain ⟨hforms, -⟩ := boundary_conversion_stable (.core "HostObject") .counting .standard 1
      (.string " 42 ")
    obtain ⟨hnames, hagain, -⟩ := hforms .integer m _ m hrun
    exact ⟨hrun, hnames.resolve_right (by simp), hagain m⟩
  · obtain ⟨-, s, hscript, hsame, hlists⟩ := boundary_conversion_stable (.core "HostObject")
      .counting .standard 1 (.iterable ⟨0⟩)
    have hspreads : ctx.Spreads 0 1 (.iterable ⟨0⟩) [.int 7, .int 8] :=
      .iterable (Context.restarts_counting .standard .standard 0)
    obtain ⟨k, l, m₁, m₂, hfirst, hsecond, hk, hl, hkept⟩ :=
      hlists 0 1 _ hspreads (by decide) m (by decide)
    refine ⟨k, l, m₁, m₂, hfirst, (hsame ..).1 hsecond, ?_, hkept, hl.list_eq⟩
    rintro rfl
    exact absurd hl.fresh (Nat.not_le.2 hk.lt_size)

end ScriptRealm
