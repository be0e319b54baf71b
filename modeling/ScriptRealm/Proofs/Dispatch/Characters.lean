import Mathlib.Data.List.Forall2
import ScriptRealm.Proofs.Collection.Stringification
import ScriptRealm.Proofs.Dispatch.Conversion
import ScriptRealm.Proofs.Dispatch.Handles
import ScriptRealm.Proofs.Dispatch.Interchange

/-!
# Characters as texts

Hosts hand over characters, which scripts take for texts of length one. As keys, as receivers and
arguments of the members of texts, and wherever a value is classified or coerced, a character and
its text make no difference.
-/

namespace ScriptRealm

/-- The same value, or a character and its text. -/
inductive Value.SameText : Value → Value → Prop where
  | refl (v : Value) : SameText v v
  | char (c : Char) : SameText (.char c) (.string (String.ofList [c]))

namespace Value.SameText

variable {v w : Value}

/-- The two forms of a text name the same member. -/
theorem memberName?_eq (h : SameText v w) : w.memberName? = v.memberName? := by
  cases h <;> rfl

theorem index?_eq (h : SameText v w) : w.index? = v.index? := by
  cases h <;> rfl

theorem typeWord_eq (h : SameText v w) : w.typeWord = v.typeWord := by
  cases h <;> rfl

theorem roleOf_eq (h : SameText v w) : Realm.roleOf w = Realm.roleOf v := by
  cases h <;> rfl

/-- No context tells the two forms apart when it picks a prototype. -/
theorem classify_eq (h : SameText v w) (ctx : Context) : ctx.classify w = ctx.classify v := by
  cases h <;> rfl

theorem ownMembers?_eq (h : SameText v w) (ctx : Context) :
    ctx.ownMembers? w = ctx.ownMembers? v := by
  cases h <;> rfl

/-- The generic coercions, here to a truth value, do not tell the two forms apart. -/
theorem truth_eq (h : SameText v w) : w.truth = v.truth := by
  cases h with
  | refl => rfl
  | char c => simp [Value.truth]

theorem number_eq (h : SameText v w) (s : Store) : s.number w = s.number v := by
  cases h with
  | refl => rfl
  | char c => simp [Store.number_eq, Store.unfold, Store.unfoldAt, Tree.toNumber]

theorem display_eq (h : SameText v w) (s : Store) : s.display w = s.display v := by
  cases h with
  | refl => rfl
  | char c => simp [Store.display_eq, Store.unfold, Store.unfoldAt, Tree.display]

/-- No generic coercion tells a character from its text. -/
theorem generic_eq (h : SameText v w) (kind : ScalarKind) (s : Store) :
    kind.generic s w = kind.generic s v := by
  cases kind with
  | text => exact h.display_eq s
  | number => exact h.number_eq s
  | truth => exact h.truth_eq

/-- Where the arguments are alike, so are those at one position, or both are missing. -/
theorem argument_eq {args args' : List Value} (h : List.Forall₂ SameText args args')
    (position : Nat) : SameText (argument args position) (argument args' position) := by
  induction h generalizing position with
  | nil => exact .refl _
  | cons hfirst _ ih =>
    cases position with
    | zero => exact hfirst
    | succ position => exact ih position

/-- Arguments that are the same but for characters. -/
theorem argument_cases {args args' : List Value} (h : List.Forall₂ SameText args args')
    (position : Nat) :
    argument args' position = argument args position ∨
      ∃ c, argument args position = .char c ∧
        argument args' position = .string (String.ofList [c]) := by
  have hsame := argument_eq h position
  generalize argument args position = v at hsame ⊢
  generalize argument args' position = w at hsame ⊢
  cases hsame with
  | refl => exact .inl rfl
  | char c => exact .inr ⟨c, rfl, rfl⟩

end Value.SameText

/-! ## Coercions -/

namespace Context

variable {ctx : Context} {v w : Value}

/-- The prototype of texts has the generic coercions. -/
def CoercesTextsGenerically (ctx : Context) : Prop :=
  ∀ p, ctx.realm.get? (ctx.realm.wellKnown.of .string) = some p →
    ∀ kind, p.strategy kind = kind.generic

theorem scalar_eq_coerce (kind : ScalarKind) (this : Value) :
    ctx.scalar kind this = ctx.coerce (·.strategy kind) kind.generic this := by
  cases kind <;> rfl

/-- A coercion that is generic for texts gives the same for both forms. -/
theorem CoercesTextsGenerically.scalar_eq (h : ctx.CoercesTextsGenerically) (hsame : v.SameText w)
    (kind : ScalarKind) : ctx.scalar kind w = ctx.scalar kind v := by
  cases hsame with
  | refl => rfl
  | char c =>
    have hchar : ctx.classify (.char c) = ctx.realm.wellKnown.of .string := rfl
    have hsame := Value.SameText.char c
    simp only [scalar_eq_coerce, coerce, hsame.classify_eq, hchar]
    cases hget : ctx.realm.get? (ctx.realm.wellKnown.of .string) with
    | none => simp only [Option.map_none, Option.getD_none, hsame.generic_eq]
    | some p => simp only [Option.map_some, Option.getD_some, h p hget, hsame.generic_eq]

/-- Answers for texts do not tell characters apart. -/
theorem CoercesTextsGenerically.answer_displayText (h : ctx.CoercesTextsGenerically)
    (hsame : v.SameText w) (depth : Nat) (m : Machine) :
    ctx.answer depth (.displayText w) m = ctx.answer depth (.displayText v) m := by
  cases depth with
  | zero => rfl
  | succ depth =>
    have hscalar := h.scalar_eq hsame .text
    exact congrArg (fun p : Program String => p.run (ctx.answer depth) m) hscalar

/-- The prototypes of the core realm keep the generic coercions. -/
theorem coercesTextsGenerically_core (hostObjectName : String) (host : Host) (converter : Converter)
    (config : Config) :
    (core hostObjectName host converter config).CoercesTextsGenerically := by
  intro p hp kind
  have hget := Realm.get?_core hostObjectName .string
  rw [← Realm.wellKnown_core hostObjectName .string] at hget
  cases Option.some.inj (hget.symm.trans hp)
  cases kind <;> rfl

end Context

/-! ## Members -/

namespace Builtin

open Value (SameText)

variable {this this' : Value} {args args' : List Value}

namespace Text

/-- A receiver is read as the characters of its text, whatever its form; all methods begin with
that. -/
theorem chars_eq (h : SameText this this') : chars this' = chars this := by
  cases h with
  | refl => rfl
  | char c => simp [chars]

theorem length_eq (h : SameText this this') : length this' = length this := by
  rw [length, length, chars_eq h]

theorem charAt_eq (h : SameText this this') (hargs : List.Forall₂ SameText args args') :
    charAt this' args' = charAt this args := by
  unfold charAt
  rw [chars_eq h]
  rcases SameText.argument_cases hargs 0 with harg | ⟨c, harg, harg'⟩
  · rw [harg]
  · -- neither of them is undefined, and they stand for the same position
    rw [harg, harg']
    rfl

theorem toUpperCase_eq (h : SameText this this') :
    toUpperCase this' args' = toUpperCase this args := by
  rw [toUpperCase, toUpperCase, chars_eq h]

theorem toLowerCase_eq (h : SameText this this') :
    toLowerCase this' args' = toLowerCase this args := by
  rw [toLowerCase, toLowerCase, chars_eq h]

theorem indexOf_eq (h : SameText this this') (hargs : List.Forall₂ SameText args args') :
    indexOf this' args' = indexOf this args := by
  unfold indexOf
  rw [chars_eq h, chars_eq (SameText.argument_eq hargs 0)]

theorem split_eq (h : SameText this this') (hargs : List.Forall₂ SameText args args') :
    Text.split this' args' = Text.split this args := by
  unfold Text.split
  rw [chars_eq h]
  rcases SameText.argument_cases hargs 0 with harg | ⟨c, harg, harg'⟩
  · rw [harg]
  · rw [harg, harg']
    simp only [chars_eq (.char c)]

/-- No member of texts tells characters from texts, as receivers or as arguments. -/
theorem members_eq (h : SameText this this') (hargs : List.Forall₂ SameText args args')
    (cast : Cast) : ∀ e ∈ members.properties ++ members.functions,
      e.2.read this' cast = e.2.read this cast ∧
        e.2.invoke this' args' cast = e.2.invoke this args cast := by
  have hproperty : ∀ {get : Value → Program Value}, get this' = get this →
      (Accessor.property get).read this' cast = (Accessor.property get).read this cast :=
    fun heq => congrArg (Accessor.foundBy cast) heq
  have hmethod : ∀ {call : Value → List Value → Program Value},
      call this' args' = call this args →
      (Accessor.method call).invoke this' args' cast =
        (Accessor.method call).invoke this args cast :=
    fun heq => congrArg (Accessor.foundBy cast) heq
  simp only [members, List.cons_append, List.nil_append, List.forall_mem_cons]
  exact ⟨⟨hproperty (length_eq h), rfl⟩, ⟨rfl, hmethod (charAt_eq h hargs)⟩,
    ⟨rfl, hmethod (toUpperCase_eq h)⟩, ⟨rfl, hmethod (toLowerCase_eq h)⟩,
    ⟨rfl, hmethod (indexOf_eq h hargs)⟩, ⟨rfl, hmethod (split_eq h hargs)⟩, by simp⟩

end Text

/-- Keys of maps and positions are the same for a character and its text. -/
theorem Object.hasOwnProperty_eq (this : Value) (hargs : List.Forall₂ SameText args args') :
    Object.hasOwnProperty this args' = Object.hasOwnProperty this args := by
  have hkey := SameText.argument_eq hargs 0
  unfold Object.hasOwnProperty Object.holdsKey
  rw [hkey.memberName?_eq, hkey.index?_eq]

/-- A separator may be handed over in either form. -/
theorem Sequence.run_join_eq {ctx : Context} (h : ctx.CoercesTextsGenerically) (depth : Nat)
    (this : Value) (hargs : List.Forall₂ SameText args args') (m : Machine) :
    (Sequence.join this args').run (ctx.answer depth) m =
      (Sequence.join this args).run (ctx.answer depth) m := by
  unfold Sequence.join
  rcases SameText.argument_cases hargs 0 with harg | ⟨c, harg, harg'⟩
  · rw [harg]
  · -- neither of them is undefined, so both separators are asked for as texts
    rw [harg, harg']
    refine Program.run_bind_congr _ _ ?_ fun _ _ => rfl
    exact (Program.run_ask _ m _).trans
      ((h.answer_displayText (.char c) depth m).trans (Program.run_ask _ m _).symm)

end Builtin

/-! ## Keys -/

namespace Request

/-- The request by another key. -/
def withKey : Request → Value → Request
  | .read this _ cast, key => .read this key cast
  | .write this _ value cast, key => .write this key value cast
  | .invoke this _ args cast, key => .invoke this key args cast
  | .delete this _, key => .delete this key

@[simp] theorem this_withKey (q : Request) (key : Value) : (q.withKey key).this = q.this := by
  cases q <;> rfl

@[simp] theorem key_withKey (q : Request) (key : Value) : (q.withKey key).key = key := by
  cases q <;> rfl

@[simp] theorem operation_withKey (q : Request) (key : Value) :
    (q.withKey key).operation = q.operation := by
  cases q <;> rfl

end Request

namespace Capability

/-- A capability that does the same for two keys. -/
structure TakesAlike (c : Capability) (key key' : Value) : Prop where
  read : ∀ this cast, c.read this key' cast = c.read this key cast
  write : ∀ this value cast, c.write this key' value cast = c.write this key value cast
  invoke : ∀ this args cast, c.invoke this key' args cast = c.invoke this key args cast
  delete : ∀ this, c.delete this key' = c.delete this key

variable {c : Capability} {key key' : Value}

/-- The built-in capabilities take keys for names or positions, or take no notice of them. -/
theorem BuiltIn.takesAlike (hc : c.BuiltIn) (h : key.SameText key') : c.TakesAlike key key' := by
  have hname := h.memberName?_eq
  have hindex := h.index?_eq
  cases hc with
  | passive =>
    exact ⟨fun _ _ => rfl, fun _ _ _ => rfl, fun _ _ _ => rfl, fun _ => rfl⟩
  | accessor a =>
    exact ⟨fun _ _ => rfl, fun _ _ _ => rfl, fun _ _ _ => rfl, fun _ => rfl⟩
  -- sequences use a key by its index only, and mappings by its name only
  | sequence =>
    have hread : ∀ this cast, readItem this key' cast = readItem this key cast := by
      intro this cast
      unfold readItem
      rw [hindex]
    have hwrite : ∀ this value cast,
        writeItem this key' value cast = writeItem this key value cast := by
      intro this value cast
      unfold writeItem
      rw [hindex]
    have hdelete : ∀ this, deleteItem this key' = deleteItem this key := by
      intro this
      unfold deleteItem
      rw [hindex]
    exact ⟨hread, hwrite, fun _ _ _ => rfl, hdelete⟩
  | mapping =>
    have hread : ∀ this cast, readEntry this key' cast = readEntry this key cast := by
      intro this cast
      unfold readEntry
      rw [hname]
    have hwrite : ∀ this value cast,
        writeEntry this key' value cast = writeEntry this key value cast := by
      intro this value cast
      unfold writeEntry
      rw [hname]
    have hdelete : ∀ this, deleteEntry this key' = deleteEntry this key := by
      intro this
      unfold deleteEntry
      rw [hname]
    exact ⟨hread, hwrite, fun _ _ _ => rfl, hdelete⟩

/-- A capability that takes two keys alike serves the two requests alike. -/
theorem TakesAlike.alike (h : c.TakesAlike key key')
    (answer : (q : Query) → Machine → Ending q.Answer) (q : Request) :
    Request.Alike answer (q.withKey key) (q.withKey key') (c.serve (q.withKey key))
      (c.serve (q.withKey key')) := by
  cases q with
  | read this _ cast =>
    exact Request.alike_read fun m => congrArg (·.run answer m) (h.read this cast).symm
  | write this _ value cast =>
    exact Request.alike_write fun m => congrArg (·.run answer m) (h.write this value cast).symm
  | invoke this _ args cast =>
    exact Request.alike_invoke fun m => congrArg (·.run answer m) (h.invoke this args cast).symm
  | delete this _ =>
    exact Request.alike_delete fun m => congrArg (·.run answer m) (h.delete this).symm

end Capability

/-- Where all capabilities along the chains are built-in, a key and one of the same text can be
interchanged. -/
theorem Context.interchanges_withKey {ctx : Context}
    (hlevels : ∀ p ∈ ctx.realm.prototypes, ∀ c, p.capability? = some c → c.BuiltIn)
    {answer : (q : Query) → Machine → Ending q.Answer} (start : ProtoId) {q : Request}
    (hown : ctx.ownMembers? q.this = none) {key key' : Value} (h : key.SameText key')
    (m : Machine) : ctx.Interchanges answer start (q.withKey key) (q.withKey key') m := by
  have hcandidates : ctx.candidates start (q.withKey key') =
      ctx.candidates start (q.withKey key) :=
    ctx.candidates_congr start (by simp) (by simp) (by simpa using h.memberName?_eq)
  refine interchanges_of_alike (by simp) hcandidates ?_ m
  refine forall_mem_candidates ctx start (by simpa using hown) ?_ ?_
  · intro p hp c hc
    exact ((hlevels p (Realm.mem_of_mem_chain hp) c hc).takesAlike h).alike answer q
  · intro p _ a _
    exact ((Capability.BuiltIn.accessor a).takesAlike h).alike answer q

/-! ## Texts in the core realm -/

/-- Two requests that differ in characters and their texts only. What is written is the same. -/
inductive Request.SameTexts : Request → Request → Prop where
  | read {this this' key key' : Value} (cast : Cast) (hthis : this.SameText this')
    (hkey : key.SameText key') : SameTexts (.read this key cast) (.read this' key' cast)
  | write {this this' key key' : Value} (value : Value) (cast : Cast) (hthis : this.SameText this')
    (hkey : key.SameText key') :
    SameTexts (.write this key value cast) (.write this' key' value cast)
  | invoke {this this' key key' : Value} {args args' : List Value} (cast : Cast)
    (hthis : this.SameText this') (hkey : key.SameText key')
    (hargs : List.Forall₂ Value.SameText args args') :
    SameTexts (.invoke this key args cast) (.invoke this' key' args' cast)
  | delete {this this' key key' : Value} (hthis : this.SameText this') (hkey : key.SameText key') :
    SameTexts (.delete this key) (.delete this' key')

namespace Request.SameTexts

variable {q q' : Request}

theorem this (h : q.SameTexts q') : q.this.SameText q'.this := by
  cases h <;> assumption

theorem key (h : q.SameTexts q') : q.key.SameText q'.key := by
  cases h <;> assumption

theorem operation_eq (h : q.SameTexts q') : q'.operation = q.operation := by
  cases h <;> rfl

end Request.SameTexts

/-- A member that does the same for two receivers and arguments of the same text. -/
structure Accessor.TakesTextAlike (a : Accessor)
    (answer : (q : Query) → Machine → Ending q.Answer) : Prop where
  read : ∀ {this this' : Value}, this.SameText this' → Realm.roleOf this = .string → ∀ cast m,
    (a.read this cast).run answer m = (a.read this' cast).run answer m
  invoke : ∀ {this this' : Value}, this.SameText this' → Realm.roleOf this = .string →
    ∀ {args args' : List Value}, List.Forall₂ Value.SameText args args' → ∀ cast m,
    (a.invoke this args cast).run answer m = (a.invoke this' args' cast).run answer m

namespace Accessor

variable {answer : (q : Query) → Machine → Ending q.Answer}

/-- A method that runs alike is a member that takes texts alike. -/
theorem takesTextAlike_method {call : Value → List Value → Program Value}
    (h : ∀ {this this' : Value}, this.SameText this' → Realm.roleOf this = .string →
      ∀ {args args' : List Value}, List.Forall₂ Value.SameText args args' → ∀ m,
      (call this args).run answer m = (call this' args').run answer m) :
    (method call).TakesTextAlike answer where
  read _ _ _ _ := rfl
  invoke hthis htext _ _ hargs cast m := by
    have hcall := h hthis htext hargs m
    exact Program.run_bind_congr _ _ hcall fun _ _ => rfl

end Accessor

namespace Builtin

/-- The members of texts have this property in every context. -/
theorem Text.takesTextAlike_members (answer : (q : Query) → Machine → Ending q.Answer) :
    ∀ e ∈ members.properties ++ members.functions, e.2.TakesTextAlike answer := by
  intro e he
  constructor
  case read =>
    intro this this' h _ cast m
    exact congrArg (·.run answer m) (members_eq h (.nil) cast e he).1.symm
  case invoke =>
    intro this this' h _ args args' hargs cast m
    exact congrArg (·.run answer m) (members_eq h hargs cast e he).2.symm

section

variable (hostObjectName : String) (host : Host) (converter : Converter) (config : Config)

/-- The keys and the values of a text are fresh empty lists. -/
theorem answer_viewThrough_char (c : Char) (depth : Nat) {view : View} (hview : view ≠ .entries)
    (m : Machine) :
    let ctx := Context.core hostObjectName host converter config
    let proto : ProtoRef := .handle (roleId .string)
    ctx.answer depth (.viewThrough proto view (.char c)) m =
      ctx.answer depth (.viewThrough proto view (.string (String.ofList [c]))) m := by
  intro ctx proto
  cases depth with
  | zero => rfl
  | succ d =>
    have hanswer := fun v =>
      Context.answer_viewThrough_core hostObjectName host converter config d .string view v m
    refine (hanswer _).trans (.trans ?_ (hanswer _).symm)
    cases view with
    | keys => rfl
    | values => rfl
    | entries => exact absurd rfl hview

/-- A view of a character is the one that the core realm has for texts. -/
theorem answer_view_char (c : Char) (depth : Nat) (view : View) (m : Machine) :
    let ctx := Context.core hostObjectName host converter config
    ctx.answer depth (.view view (.char c)) m =
      ctx.answer depth (.view view (.string (String.ofList [c]))) m := by
  intro ctx
  cases depth with
  | zero => rfl
  | succ d =>
    have hanswer : ∀ {v : Value}, (∀ o, v ≠ .object o) → Realm.roleOf v = .string →
        ctx.answer (d + 1) (.view view v) m =
          (View.standard view (owner hostObjectName .string) v).run (ctx.answer d) m := by
      intro v hobject hrole
      have hclassify := Context.classify_core hostObjectName host converter config hobject
      rw [hrole] at hclassify
      exact Context.answer_view_core hostObjectName host converter config d hclassify view m
    refine (hanswer (by simp) rfl).trans (.trans ?_ (hanswer (by simp) rfl).symm)
    cases view with
    | keys => rfl
    | values => rfl
    | entries =>
      -- the entries ask for the other two views one after the other
      have hask : ∀ {view : View}, view ≠ .entries → ∀ m,
          (Program.ask (.viewThrough (.handle (roleId .string)) view (.char c))).run
              (ctx.answer d) m =
            (Program.ask (.viewThrough (.handle (roleId .string)) view
              (.string (String.ofList [c])))).run (ctx.answer d) m := by
        intro view hview m
        exact (Program.run_ask _ m _).trans
          ((answer_viewThrough_char hostObjectName host converter config c d hview m).trans
            (Program.run_ask _ m _).symm)
      exact Program.run_bind_congr _ _ (hask (by simp) m) fun keys m =>
        Program.run_bind_congr _ _ (hask (by simp) m) fun values m => rfl

/-- What the root has for all values takes texts alike as well. -/
theorem takesTextAlike_object (depth : Nat) :
    ∀ e ∈ Object.members.functions,
      e.2.TakesTextAlike ((Context.core hostObjectName host converter config).answer depth) := by
  have hgeneric := Context.coercesTextsGenerically_core hostObjectName host converter config
  have htoText : (Accessor.method Object.toText).TakesTextAlike
      ((Context.core hostObjectName host converter config).answer depth) := by
    refine Accessor.takesTextAlike_method fun h _ _ _ _ m => ?_
    refine Program.run_bind_congr _ _ ?_ fun _ _ => rfl
    exact (Program.run_ask _ m _).trans
      ((hgeneric.answer_displayText h depth m).symm.trans (Program.run_ask _ m _).symm)
  have hhasOwn : (Accessor.method Object.hasOwnProperty).TakesTextAlike
      ((Context.core hostObjectName host converter config).answer depth) := by
    -- a text has no entries and no positions
    refine Accessor.takesTextAlike_method fun {this _} h htext _ _ _ m => ?_
    cases h with
    | char c => rfl
    | refl =>
      cases this with
      | char c => rfl
      | string t => rfl
      | _ => cases htext
  have hviewed : ∀ view, (Accessor.method (Object.viewed view)).TakesTextAlike
      ((Context.core hostObjectName host converter config).answer depth) := by
    intro view
    refine Accessor.takesTextAlike_method fun h _ _ _ _ m => ?_
    cases h with
    | refl v => rfl
    | char c =>
      refine Program.run_bind_congr _ _ ?_ fun _ _ => rfl
      exact (Program.run_ask _ m _).trans
        ((answer_view_char hostObjectName host converter config c depth view m).trans
          (Program.run_ask _ m _).symm)
  simp only [Object.members, List.forall_mem_cons]
  exact ⟨htoText, hhasOwn, hviewed .keys, hviewed .values, hviewed .entries, by simp⟩

end

end Builtin

/-- No capability of the core realm serves texts. -/
theorem Capability.serve_mapping_text {q : Request} (h : Realm.roleOf q.this = .string) :
    mapping.serve q = pure q.miss := by
  cases q with
  | read this key cast => cases this <;> first | rfl | cases h
  | write this key value cast => cases this <;> first | rfl | cases h
  | invoke this key args cast => rfl
  | delete this key => cases this <;> first | rfl | cases h

/-- Such a member serves two requests with the same texts alike. -/
theorem Accessor.TakesTextAlike.alike {a : Accessor}
    {answer : (q : Query) → Machine → Ending q.Answer} (ha : a.TakesTextAlike answer)
    {q q' : Request} (h : q.SameTexts q') (htext : Realm.roleOf q.this = .string) :
    Request.Alike answer q q' (a.capability.serve q) (a.capability.serve q') := by
  cases h with
  | read cast hthis hkey => exact Request.alike_read (ha.read hthis htext cast)
  | write value cast hthis hkey => exact Request.alike_miss rfl
  | invoke cast hthis hkey hargs => exact Request.alike_invoke (ha.invoke hthis htext hargs cast)
  | delete hthis hkey => exact Request.alike_miss rfl

namespace Context

variable (hostObjectName : String) (host : Host) (converter : Converter) (config : Config)

/-- In the core realm a request on a text goes the same way with characters in place of their
texts, as receiver, as key and as arguments. -/
theorem interchanges_texts {q q' : Request} (h : q.SameTexts q')
    (htext : Realm.roleOf q.this = .string) (depth : Nat) (m : Machine) :
    let ctx := core hostObjectName host converter config
    ctx.Interchanges (ctx.answer depth) (ctx.classify q.this) q q' m := by
  intro ctx
  have hobject : ∀ o, q.this ≠ .object o := by
    intro o ho
    rw [ho] at htext
    cases htext
  have hown : ctx.ownMembers? q.this = none := by
    generalize q.this = this at hobject
    cases this with
    | object o => exact absurd rfl (hobject o)
    | _ => rfl
  have hclassify := classify_core hostObjectName host converter config hobject
  have hchain : ctx.realm.chain (ctx.classify q.this) =
      [Builtin.prototype hostObjectName .string, Builtin.prototype hostObjectName .object] := by
    rw [hclassify, htext]
    exact Realm.chain_core hostObjectName .string
  have hcandidates := ctx.candidates_congr (ctx.classify q.this) (h.this.ownMembers?_eq ctx)
    h.operation_eq h.key.memberName?_eq
  refine interchanges_of_alike h.operation_eq.symm hcandidates ?_ m
  refine forall_mem_candidates ctx _ hown ?_ ?_
  · -- of the two levels only the root has a capability, and it has no texts to serve
    intro p hp c hc
    rw [hchain, List.mem_cons, List.mem_singleton] at hp
    rcases hp with rfl | rfl
    · cases hc
    · cases hc
      have htext' : Realm.roleOf q'.this = .string := h.this.roleOf_eq ▸ htext
      have hmiss : Request.Alike (ctx.answer depth) q q' (pure q.miss) (pure q'.miss) :=
        Request.alike_miss h.operation_eq.symm
      rwa [← Capability.serve_mapping_text htext, ← Capability.serve_mapping_text htext'] at hmiss
  · intro p hp a ha
    obtain ⟨table, htable, hfind⟩ := List.mem_filterMap.1 ha
    obtain ⟨name, -, hname⟩ := Option.bind_eq_some_iff.1 hfind
    rw [p.tables_eq_map] at htable
    obtain ⟨t, -, rfl⟩ := List.mem_map.1 htable
    rw [hchain, List.mem_cons, List.mem_singleton] at hp
    rcases hp with rfl | rfl
    · obtain ⟨e, he, rfl⟩ := Builtin.exists_member_of_find? hname
      refine (Builtin.Text.takesTextAlike_members _ e ?_).alike h htext
      simpa [Builtin.members, Builtin.Text.members] using he
    · obtain ⟨e, he, rfl⟩ := Builtin.exists_member_of_find? hname
      refine (Builtin.takesTextAlike_object hostObjectName host converter config depth e ?_).alike h
        htext
      simpa [Builtin.members, Builtin.Object.members] using he

end Context

/-- A character and its text are interchangeable. As keys they are so in every context whose chains
have built-in capabilities only, for every request on a receiver without own members. As receivers
or arguments of the members of texts, as arguments of `hasOwnProperty`, and as separators of `join`,
they are so in every context, and so the requests on a text in the core realm are too. Nor is there
a difference in what serves them, and in the scalars that the generic coercions make of them. -/
theorem characters_are_texts (c : Char) :
    let char : Value := .char c
    let text : Value := .string (String.ofList [c])
    (∀ ctx : Context,
      (∀ p ∈ ctx.realm.prototypes, ∀ capability, p.capability? = some capability →
        capability.BuiltIn) →
      ∀ answer start (q : Request) m, ctx.ownMembers? q.this = none →
        ctx.Interchanges answer start (q.withKey char) (q.withKey text) m) ∧
    (∀ e ∈ Builtin.Text.members.properties ++ Builtin.Text.members.functions,
      ∀ this this' args args', Value.SameText this this' →
        List.Forall₂ Value.SameText args args' → ∀ cast,
          e.2.read this' cast = e.2.read this cast ∧
            e.2.invoke this' args' cast = e.2.invoke this args cast) ∧
    (∀ hostObjectName host converter config depth (q q' : Request) m, q.SameTexts q' →
      Realm.roleOf q.this = .string →
        let ctx := Context.core hostObjectName host converter config
        ctx.Interchanges (ctx.answer depth) (ctx.classify q.this) q q' m) ∧
    (∀ this args args', List.Forall₂ Value.SameText args args' →
      Builtin.Object.hasOwnProperty this args' = Builtin.Object.hasOwnProperty this args) ∧
    (∀ ctx : Context, ctx.CoercesTextsGenerically →
      (∀ depth this args args' m, List.Forall₂ Value.SameText args args' →
        ctx.run depth (Builtin.Sequence.join this args') m =
          ctx.run depth (Builtin.Sequence.join this args) m) ∧
      ∀ kind, ctx.scalar kind char = ctx.scalar kind text) ∧
    (∀ ctx : Context, ctx.classify char = ctx.classify text) ∧
    char.typeWord = text.typeWord := by
  intro char text
  have hsame : char.SameText text := .char c
  refine ⟨?_, ?_, ?_, ?_, ?_, fun ctx => (hsame.classify_eq ctx).symm, hsame.typeWord_eq.symm⟩
  · intro ctx hlevels answer start q m hown
    exact ctx.interchanges_withKey hlevels start hown hsame m
  · intro e he this this' args args' hthis hargs cast
    exact Builtin.Text.members_eq hthis hargs cast e he
  · intro hostObjectName host converter config depth q q' m h htext
    exact Context.interchanges_texts hostObjectName host converter config h htext depth m
  · intro this args args' hargs
    exact Builtin.Object.hasOwnProperty_eq this hargs
  · intro ctx hgeneric
    refine ⟨?_, fun kind => (hgeneric.scalar_eq hsame kind).symm⟩
    intro depth this args args' m hargs
    exact Builtin.Sequence.run_join_eq hgeneric depth this hargs m

/-- A map of the core realm loses the same entry by a character as by its text, and a character
separates the items of a list as its text does. -/
theorem characters_are_texts_core :
    let ctx := Context.core "HostObject" .empty .standard .standard
    let entries : Assoc Value := .ofList [("x", .int 1)]
    let m : Machine := ⟨⟨#[[.int 1, .int 2]], #[entries]⟩, #[]⟩
    ctx.Interchanges (ctx.answer 2) ⟨0⟩ (.delete (.map ⟨0⟩) (.char 'x'))
        (.delete (.map ⟨0⟩) (.string "x")) m ∧
      ctx.run 2 (Builtin.Sequence.join (.list ⟨0⟩) [.string "x"]) m =
        ctx.run 2 (Builtin.Sequence.join (.list ⟨0⟩) [.char 'x']) m := by
  intro ctx entries m
  obtain ⟨hkeys, -, -, -, hgeneric, -⟩ := characters_are_texts 'x'
  have hbuiltIn : ctx.BuiltIn := Context.builtIn_core _ _ _ (by simp [Host.empty])
  have hcoerces : ctx.CoercesTextsGenerically := Context.coercesTextsGenerically_core _ _ _ _
  constructor
  · exact hkeys ctx hbuiltIn.levels (ctx.answer 2) ⟨0⟩ (.delete (.map ⟨0⟩) .null) m rfl
  · exact (hgeneric ctx hcoerces).1 2 (.list ⟨0⟩) [.char 'x'] [.string "x"] m
      (.cons (.char 'x') .nil)

end ScriptRealm
