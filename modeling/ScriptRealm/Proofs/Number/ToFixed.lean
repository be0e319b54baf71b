import ScriptRealm.Proofs.Collection.Rendering
import ScriptRealm.Proofs.Dispatch.Methods
import ScriptRealm.Proofs.Number.Places

/-!
# Numbers with fixed places

What `toFixed` finds on a number. It writes the double that the number stands for, rounded to the
places. So the text of an integer that is no double is not that of the integer, not even up to
rounding, while the text by `toString` shows all its digits.
-/

namespace ScriptRealm

/-! ## Members of numbers -/

namespace Context

variable (hostObjectName : String) (host : Host) (converter : Converter) (config : Config)

/-- In the core realm a number is its own number. -/
theorem answer_numberOf_number (depth : Nat) (n : Number) (m : Machine) :
    (core hostObjectName host converter config).answer (depth + 1) (.numberOf (.number n)) m =
      .returned n m := by
  let ctx := core hostObjectName host converter config
  have hget : ctx.realm.get? (ctx.classify (.number n)) =
      some (Builtin.prototype hostObjectName .number) := Realm.get?_core hostObjectName .number
  have hnumber : m.store.number (.number n) = n := by
    rw [Store.number_eq, Store.unfold, Store.unfoldAt, Tree.toNumber]
  have hrun : (ctx.numberOf (.number n)).run (ctx.answer depth) m =
      .returned (m.store.number (.number n)) m := by
    rw [numberOf, coerce, hget]
    rfl
  rw [hnumber] at hrun
  exact hrun

/-- Where tables are looked up by the names of members, a number has the methods of its own
prototype. -/
theorem run_invoke_number (answer : (q : Query) → Machine → Ending q.Answer) (m : Machine)
    (hkey : config.tableKey = .member) (n : Number) {name : String}
    {call : Value → List Value → Program Value}
    (hcall : (Assoc.ofList Builtin.Scalar.numberMembers.functions).find? name =
      some (.method call)) (args : List Value) :
    ((core hostObjectName host converter config).invoke (.number n) (.string name) args
      .identity).run answer m =
      ((call (.number n) args).run answer m).andThen fun v m => .returned (.found v) m := by
  have hrole := classify_core hostObjectName host converter config (v := .number n) (by simp)
  have hfunction : (Builtin.prototype hostObjectName .number).functions.find? name =
      some (.method call) := hcall
  have hcallables : ∃ rest, Builtin.callables hostObjectName .number name =
      .method call :: rest := by
    rw [Builtin.callables, Prototype.invocable, hfunction]
    exact ⟨_, rfl⟩
  obtain ⟨rest, hrest⟩ := hcallables
  exact run_invoke_method answer m hkey rfl hrole hrest args

/-- The method `toFixed` writes a number with the places that it is asked for. -/
theorem run_toFixed (hkey : config.tableKey = .member) (depth : Nat) (m : Machine) (n : Number)
    {places : Nat} (hplaces : places ≤ 100) :
    let ctx := core hostObjectName host converter config
    (ctx.invoke (.number n) (.string "toFixed") [.int places] .identity).run
        (ctx.answer (depth + 1)) m =
      .returned (.found (.string (n.fixedText places))) m := by
  intro ctx
  have hcall : (Assoc.ofList Builtin.Scalar.numberMembers.functions).find? "toFixed" =
      some (.method Builtin.Scalar.toFixed) := rfl
  have hanswer := fun n =>
    answer_numberOf_number hostObjectName host converter config depth n m
  have hplacesInt : (Int64.ofInt places).toInt = places :=
    Int64.toInt_ofInt_of_le (by omega) (by omega)
  have hread : (Builtin.Scalar.places (.int places)).run (ctx.answer (depth + 1)) m =
      .returned places m := by
    refine (Program.run_ask_bind (hanswer (.integer (Int64.ofInt places))) _).trans ?_
    simp only [hplacesInt]
    rw [if_pos ⟨by omega, by omega⟩]
    rfl
  refine (run_invoke_number hostObjectName host converter config _ m hkey n hcall _).trans ?_
  have hargument : Value.argument [.int places] 0 = .int places := rfl
  have hwrite : (Builtin.Scalar.toFixed (.number n) [.int places]).run (ctx.answer (depth + 1)) m =
      .returned (.string (n.fixedText places)) m := by
    rw [Builtin.Scalar.toFixed, hargument, Program.run_bind_eq, hread, Ending.returned_andThen]
    refine (Program.run_ask_bind (hanswer n) _).trans ?_
    exact Program.run_pure _ m _
  rw [hwrite]
  rfl

end Context

/-! ## Exactness -/

namespace Number

/-- The exact value of an integer or a finite double. -/
def exactValue? : Number → Option ℚ
  | .integer i => some i.toInt
  | .float x => if x.isFinite then some x.value else none
  | _ => none

theorem exactValue?_float_eq_some_iff (x : Binary64) (v : ℚ) :
    (float x).exactValue? = some v ↔ x.isFinite = true ∧ x.value = v := by
  rw [exactValue?]
  split <;> simp [*]

/-- A number with an exact value stands for a finite double, whose places are the ones that are
shown. -/
theorem fixedText_of_exactValue? {n : Number} {v : ℚ} (h : n.exactValue? = some v) (places : Nat) :
    n.toBinary64.isFinite = true ∧ (n.fixedText places).toList = n.toBinary64.fixedText places := by
  cases n with
  | integer i =>
    have hlow := i.le_toInt
    have hhigh := i.toInt_lt
    exact ⟨Binary64.isFinite_ofInt (by omega), String.toList_ofList⟩
  | float x => exact ⟨((exactValue?_float_eq_some_iff x v).1 h).1, String.toList_ofList⟩
  | nan | positiveInfinity | negativeInfinity => cases h

/-- A numeral that is as near to the double of a number as the places allow is as near to the number
only if the double is exact. -/
theorem near_iff_of_exactValue? {n : Number} {v : ℚ} (h : n.exactValue? = some v) {l : Literal}
    {places : Nat} {s : List Char} (hl : l.Fixed places s)
    (hnear : |l.value - n.toBinary64.value| ≤ 1 / 10 ^ places / 2) :
    |l.value - v| ≤ 1 / 10 ^ places / 2 ↔ n.toBinary64.value = v := by
  refine ⟨fun hexact => ?_, fun hvalue => hvalue ▸ hnear⟩
  cases n with
  | integer i =>
    obtain rfl : (i.toInt : ℚ) = v := Option.some.inj h
    obtain ⟨hfinite, -⟩ := fixedText_of_exactValue? h places
    obtain ⟨j, hj⟩ := (Binary64.roundsTo_ofInt i.toInt).exists_int hfinite
    have hdouble : (integer i).toBinary64.value = j := hj
    rw [hdouble] at hnear ⊢
    rw [← hl.value_eq_of_near hnear, hl.value_eq_of_near hexact]
  | float x => exact ((exactValue?_float_eq_some_iff x v).1 h).2
  | nan | positiveInfinity | negativeInfinity => cases h

end Number

/-- On an integer or a finite double, `toFixed` with 0 to 100 places finds a numeral with that many
places, which is the rounding of the double that the number stands for. It is a rounding of the
number itself exactly if that double is exact. So it is for all doubles, and for just those integers
that are shown with their own digits and with zeros. -/
theorem toFixed_correct_iff (hostObjectName : String) (host : Host) (converter : Converter)
    (config : Config) (hkey : config.tableKey = .member) (depth : Nat) (m : Machine) {n : Number}
    {v : ℚ} (hv : n.exactValue? = some v) {places : Nat} (hplaces : places ≤ 100) :
    let ctx := Context.core hostObjectName host converter config
    ∃ (text : String) (l : Literal),
      (ctx.invoke (.number n) (.string "toFixed") [.int places] .identity).run
        (ctx.answer (depth + 1)) m = .returned (.found (.string text)) m ∧
      l.Fixed places text.toList ∧ (∃ i : ℤ, l.value = i / 10 ^ places) ∧
      |l.value - n.toBinary64.value| ≤ 1 / 10 ^ places / 2 ∧
      (|l.value - v| ≤ 1 / 10 ^ places / 2 ↔ n.toBinary64.value = v) ∧
      ∀ i, n = .integer i →
        (text.toList = Numeral.withPlaces places i.toInt ↔ n.toBinary64.value = v) := by
  intro ctx
  obtain ⟨hfinite, htext⟩ := Number.fixedText_of_exactValue? hv places
  obtain ⟨l, hl, hnear⟩ := Binary64.exists_fixed_fixedText hfinite places
  rw [← htext] at hl
  have hiff := Number.near_iff_of_exactValue? hv hl hnear
  have hrun :=
    Context.run_toFixed hostObjectName host converter config hkey depth m n hplaces
  refine ⟨n.fixedText places, l, hrun, hl, hl.exists_multiple, hnear, hiff, ?_⟩
  rintro i rfl
  obtain rfl : (i.toInt : ℚ) = v := Option.some.inj hv
  constructor
  · intro hdigits
    -- the digits of the integer have its value, which is then within half a step of it
    obtain ⟨k, hk, hvalue⟩ := Literal.exists_fixed_withPlaces places i.toInt
    rw [← hdigits] at hk
    apply hiff.1
    rw [hl.value_unique hk, hvalue, sub_self, abs_zero]
    positivity
  · intro hexact
    have hlow := i.le_toInt
    have hhigh := i.toInt_lt
    rw [htext]
    exact Binary64.fixedText_ofInt (by omega) hexact places

/-- The greatest integer up to which all integers are doubles. -/
theorem toFixed_of_last_exact_integer :
    let ctx := Context.core "HostObject" .empty .standard .standard
    let i : Int64 := 9007199254740992
    (Number.integer i).exactValue? = some (i.toInt : ℚ) ∧
    ∃ text : String,
      (ctx.invoke (.number (.integer i)) (.string "toFixed") [.int (2 : Nat)] .identity).run
        (ctx.answer 1) default = .returned (.found (.string text)) default ∧
      text.toList = Numeral.withPlaces 2 9007199254740992 := by
  intro ctx i
  have hexact : (Number.integer i).exactValue? = some (i.toInt : ℚ) := rfl
  obtain ⟨text, -, hrun, -, -, -, -, hdigits⟩ := toFixed_correct_iff "HostObject" .empty .standard
    .standard rfl 0 default hexact (show 2 ≤ 100 by decide)
  have hvalue : (Number.integer i).toBinary64.value = (i.toInt : ℚ) :=
    Binary64.value_ofInt (by decide)
  exact ⟨hexact, text, hrun, (hdigits i rfl).2 hvalue⟩

/-- The integer after it is shown as its predecessor, while its text has all its digits. -/
theorem toFixed_loses_last_digit :
    let ctx := Context.core "HostObject" .empty .standard .standard
    let i : Int64 := 9007199254740993
    (ctx.invoke (.number (.integer i)) (.string "toFixed") [.int (0 : Nat)] .identity).run
        (ctx.answer 1) default = .returned (.found (.string "9007199254740992")) default ∧
      (Number.integer i).text = "9007199254740993" ∧
      (Number.integer i).exactValue? = some (9007199254740993 : ℤ) ∧
      ∀ l : Literal, l.Fixed 0 "9007199254740992".toList →
        ¬|l.value - (9007199254740993 : ℤ)| ≤ 1 / 10 ^ 0 / 2 := by
  intro ctx i
  have hrun := Context.run_toFixed "HostObject" .empty .standard .standard rfl 0 default
    (.integer i) (show 0 ≤ 100 by decide)
  have htext : (Number.integer i).fixedText 0 = "9007199254740992" := by decide +kernel
  have hexact : i.toInt = 9007199254740993 := by decide
  rw [htext] at hrun
  refine ⟨hrun, by decide +kernel, congrArg (some ∘ Int.cast) hexact, fun l hl hnear => ?_⟩
  have hdigits : Numeral.withPlaces 0 9007199254740992 = "9007199254740992".toList := by
    decide +kernel
  obtain ⟨k, hk, hvalue⟩ := Literal.exists_fixed_withPlaces 0 9007199254740992
  rw [hdigits] at hk
  -- the integer is no value of this text, and no other integer is within half a step of it
  have hother := hl.value_eq_of_near hnear
  rw [hl.value_unique hk, hvalue] at hother
  norm_num at hother

end ScriptRealm
