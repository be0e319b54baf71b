import ScriptRealm.Proofs.Collection.Dispatch

/-!
# A reference for collections

Lists as plain sequences and maps as plain sequences of named values, and what reading, writing,
deleting, pushing and popping mean for them. The reference knows of no prototypes, chains or tables;
all it takes from elsewhere are the texts of values.
-/

namespace ScriptRealm

/-! ## One collection -/

namespace Content

/-- The member that a key addresses: an item by its position, a value by its name. -/
def member? : Content → Value → Option Value
  | .items values, key => key.index?.bind fun i => values[i]?
  | .entries pairs, key => key.memberName?.bind fun name => pairs.lookup name

/-- Gives a name a value: in its old place, or at the end. -/
def bindName (name : String) (v : Value) (pairs : List (String × Value)) : List (String × Value) :=
  if name ∈ pairs.map Prod.fst then
    pairs.map fun e => if e.1 = name then (name, v) else e
  else pairs ++ [(name, v)]

/-- The content with another value for the member that a key addresses. Maps have a place for each
name, and lists only for the positions that they have. -/
def replace? : Content → Value → Option (Value → Content)
  | .items values, key => do
    let i ← key.index?
    if i < values.length then
      some fun v => .items (values.take i ++ v :: values.drop (i + 1))
    else none
  | .entries pairs, key => key.memberName?.map fun name v => .entries (bindName name v pairs)

/-- The member that a key addresses, and the content without it. -/
def remove? : Content → Value → Option (Value × Content)
  | .items values, key => do
    let i ← key.index?
    let v ← values[i]?
    return (v, .items (values.take i ++ values.drop (i + 1)))
  | .entries pairs, key => do
    let name ← key.memberName?
    let v ← pairs.lookup name
    return (v, .entries (pairs.filter (·.1 != name)))

end Content

/-- What a method gives back, and the items that it leaves. -/
def ListMethod.apply : ListMethod → List Value → List Value → Value × List Value
  | .push, values, args => (.count (values.length + args.length), values ++ args)
  | .pop, values, _ => (values.getLast?.getD .undefined, values.dropLast)

/-! ## All collections -/

/-- Lists and maps without their machinery. -/
structure PlainStore where
  lists : List (List Value)
  maps : List (List (String × Value))
deriving DecidableEq

namespace PlainStore

/-- What a handle leads to. Equal handles lead to one collection. -/
def content (p : PlainStore) : Handle → Content
  | .list l => .items (p.lists[l.index]?.getD [])
  | .map m => .entries (p.maps[m.index]?.getD [])

/-- Changes the content of one collection. -/
def place (p : PlainStore) : Handle → Content → PlainStore
  | .list l, .items values => { p with lists := p.lists.set l.index values }
  | .map m, .entries pairs => { p with maps := p.maps.set m.index pairs }
  | _, _ => p

/-- A fresh list, and the store that has it. -/
def fresh (p : PlainStore) (values : List Value) : Value × PlainStore :=
  (.list ⟨p.lists.length⟩, { p with lists := p.lists ++ [values] })

/-- The store that the texts of values are taken from. -/
def store (p : PlainStore) : Store :=
  ⟨p.lists.toArray, (p.maps.map Assoc.ofList).toArray⟩

/-! ## Conversions -/

/-- What each iterable yields while the collections are as they are. -/
abbrev Yields := IterableRef → PlainStore → List Value

/-- The error for a value that has no host form of a type. -/
def refusal (p : PlainStore) (v : Value) (target : HostType) : ScriptError :=
  .conversion (.noHostRepresentation (p.store.describe v) target)

/-- The host form of a value. A list is made of a pair or an iterable by copying. -/
def hostForm (yields : Yields) (p : PlainStore) (v : Value) (target : HostType) :
    Except ScriptError (Value × PlainStore) :=
  match target, v with
  | .boolean, v => .ok (.boolean v.truth, p)
  | .text, v => .ok (.string (p.store.display v), p)
  | .integer, v =>
    match Converter.numeric? v with
    | some (.integer i) => .ok (.number (.integer i), p)
    | _ => .error (p.refusal v .integer)
  | .float, v =>
    match Converter.numeric? v with
    | some n => .ok (.number n, p)
    | none => .error (p.refusal v .float)
  | .char, .char c => .ok (.char c, p)
  | .char, .string s =>
    match s.toList with
    | [c] => .ok (.char c, p)
    | _ => .error (p.refusal (.string s) .char)
  | .list, .list l => .ok (.list l, p)
  | .list, .pair a b => .ok (p.fresh [a, b])
  | .list, .iterable i => .ok (p.fresh (yields i p))
  | .map, .map m => .ok (.map m, p)
  | target, v => .error (p.refusal v target)

/-- The value that a cast makes of a value. -/
def convert (yields : Yields) (p : PlainStore) :
    Cast → Value → Except ScriptError (Value × PlainStore)
  | .identity, v => .ok (v, p)
  | .toScript, v => .ok (Converter.widen v, p)
  | .toHost none, v => .ok (v, p)
  | .toHost (some target), v => hostForm yields p v target

end PlainStore

/-! ## Acts -/

/-- What a script does to a collection. -/
inductive Act where
  | read (key : Value) (cast : Cast)
  | write (key value : Value) (cast : Cast)
  | delete (key : Value)
  | call (method : ListMethod) (args : List Value) (cast : Cast)

/-- What a script gets for an act. -/
inductive Reply where
  | looked (l : Lookup)
  | accepted (b : Bool)
deriving DecidableEq, Repr

namespace PlainStore

/-- Hands a converted value over as found. A failed conversion leaves the store as it was. -/
def handOver (p : PlainStore) :
    Except ScriptError (Value × PlainStore) → Except ScriptError Reply × PlainStore
  | .ok (v, p') => (.ok (.looked (.found v)), p')
  | .error e => (.error e, p)

/-- The answer to an act on a collection, and the collections after it. -/
def act (yields : Yields) (tableKey : TableKey) (p : PlainStore) (h : Handle) :
    Act → Except ScriptError Reply × PlainStore
  | .read key cast =>
    match (p.content h).member? key, p.content h with
    | some v, _ => p.handOver (p.convert yields cast v)
    | none, .items values =>
      if tableKey = .member ∧ key.memberName? = some "length" then
        p.handOver (p.convert yields cast (.count values.length))
      else (.ok (.looked .missing), p)
    | none, .entries _ => (.ok (.looked .missing), p)
  | .write key value cast =>
    match (p.content h).replace? key with
    | some replace =>
      match p.convert yields cast value with
      | .ok (v, p') => (.ok (.accepted true), p'.place h (replace v))
      | .error e => (.error e, p)
    | none => (.ok (.accepted false), p)
  | .delete key =>
    match (p.content h).remove? key with
    | some (v, rest) =>
      let p' := p.place h rest
      p'.handOver (p'.convert yields .toScript v)
    | none => (.ok (.looked .missing), p)
  | .call method args cast =>
    match tableKey, p.content h with
    | .member, .items values =>
      let (v, values') := method.apply values args
      let p' := p.place h (.items values')
      p'.handOver (p'.convert yields cast v)
    | _, _ => (.ok (.looked .missing), p)

/-- Performs acts in sequence. After each there is its answer and the store. -/
def actAll (yields : Yields) (tableKey : TableKey) (p : PlainStore) :
    List (Handle × Act) → List (Except ScriptError Reply × PlainStore)
  | [] => []
  | (h, a) :: rest =>
    let outcome := p.act yields tableKey h a
    outcome :: outcome.2.actAll yields tableKey rest

end PlainStore

/-! ## What an act leaves alone -/

namespace PlainStore

variable {yields : Yields} {tableKey : TableKey} {p p' p'' : PlainStore} {k h : Handle}

/-- Whether a handle will never be given to a fresh list. -/
def Taken (p : PlainStore) : Handle → Prop
  | .list l => l.index < p.lists.length
  | .map _ => True

/-- The handle leads to the same content before and after, unless it was free for a fresh list. -/
def Retains (k : Handle) (p p' : PlainStore) : Prop :=
  p.Taken k → p'.Taken k ∧ p'.content k = p.content k

theorem Retains.refl (k : Handle) (p : PlainStore) : Retains k p p :=
  fun htaken => ⟨htaken, rfl⟩

theorem Retains.trans (hfirst : Retains k p p') (hsecond : Retains k p' p'') : Retains k p p'' := by
  intro htaken
  obtain ⟨htaken', hsame⟩ := hfirst htaken
  obtain ⟨htaken'', hsame'⟩ := hsecond htaken'
  exact ⟨htaken'', hsame'.trans hsame⟩

theorem retains_fresh (k : Handle) (p : PlainStore) (values : List Value) :
    Retains k p (p.fresh values).2 := by
  intro htaken
  cases k with
  | list l =>
    have hlt : l.index < p.lists.length := htaken
    refine ⟨by simp [Taken, fresh]; omega, ?_⟩
    simp [content, fresh, List.getElem?_append_left hlt]
  | map m => exact ⟨htaken, rfl⟩

theorem retains_place (hne : k ≠ h) (p : PlainStore) (c : Content) : Retains k p (p.place h c) := by
  intro htaken
  cases h with
  | list l =>
    cases c with
    | entries pairs => exact ⟨htaken, rfl⟩
    | items values =>
      cases k with
      | map m => exact ⟨htaken, rfl⟩
      | list j =>
        have hindex : l.index ≠ j.index := by
          intro hindex
          exact hne (congrArg Handle.list (congrArg ListRef.mk hindex.symm))
        exact ⟨by simpa [Taken, place] using htaken, by simp [content, place, hindex]⟩
  | map m =>
    cases c with
    | items values => exact ⟨htaken, rfl⟩
    | entries pairs =>
      cases k with
      | list l => exact ⟨htaken, rfl⟩
      | map j =>
        have hindex : m.index ≠ j.index := by
          intro hindex
          exact hne (congrArg Handle.map (congrArg MapRef.mk hindex.symm))
        exact ⟨trivial, by simp [content, place, hindex]⟩

/-- Only the handle of a list that is there, or of a map, has a place for another member. -/
theorem taken_of_replace? {key : Value} {replace : Value → Content}
    (hsome : (p.content h).replace? key = some replace) : p.Taken h := by
  cases h with
  | map m => exact trivial
  | list l =>
    simp only [content, Content.replace?] at hsome
    cases hkey : key.index? with
    | none => simp [hkey] at hsome
    | some i =>
      refine Classical.byContradiction fun hout => ?_
      have hempty : p.lists[l.index]? = none := by simpa [Taken] using hout
      simp [hkey, hempty] at hsome

/-- A conversion makes a fresh list at most. -/
theorem retains_convert (k : Handle) {cast : Cast} {v w : Value}
    (hok : p.convert yields cast v = .ok (w, p')) : Retains k p p' := by
  have hfresh : ∀ values,
      (.ok (p.fresh values) : Except ScriptError (Value × PlainStore)) = .ok (w, p') →
      Retains k p p' := by
    intro values hok
    injection hok with hok
    have hstore : (p.fresh values).2 = p' := congrArg Prod.snd hok
    exact hstore ▸ retains_fresh k p values
  have hsame : ∀ w',
      (.ok (w', p) : Except ScriptError (Value × PlainStore)) = .ok (w, p') →
      Retains k p p' := by
    intro w' hok
    cases hok
    exact Retains.refl k p
  -- what a case gives is the value in the old store, a copy in a fresh list, or an error
  unfold convert hostForm at hok
  repeat' split at hok
  all_goals first | exact hsame _ hok | exact hfresh _ hok | cases hok

theorem retains_handOver (k : Handle) (p : PlainStore) (cast : Cast) (v : Value) :
    Retains k p (p.handOver (p.convert yields cast v)).2 := by
  cases hconvert : p.convert yields cast v with
  | error e => exact Retains.refl k p
  | ok x => exact retains_convert k hconvert

/-- An act changes no collection but the one that it addresses. -/
theorem retains_act (hne : k ≠ h) (p : PlainStore) (a : Act) :
    Retains k p (p.act yields tableKey h a).2 := by
  cases a with
  | read key cast =>
    simp only [act]
    split
    · exact retains_handOver k p cast _
    · split
      · exact retains_handOver k p cast _
      · exact Retains.refl k p
    · exact Retains.refl k p
  | write key value cast =>
    simp only [act]
    split
    · split
      · rename_i hconvert
        exact (retains_convert k hconvert).trans (retains_place hne _ _)
      · exact Retains.refl k p
    · exact Retains.refl k p
  | delete key =>
    simp only [act]
    split
    · exact (retains_place hne p _).trans (retains_handOver k _ _ _)
    · exact Retains.refl k p
  | call method args cast =>
    simp only [act]
    split
    · exact (retains_place hne p _).trans (retains_handOver k _ _ _)
    · exact Retains.refl k p

/-- Acts change no collection that none of them addresses. -/
theorem retains_actAll (k : Handle) (acts : List (Handle × Act)) (hne : ∀ a ∈ acts, a.1 ≠ k)
    (p : PlainStore) : ∀ x ∈ p.actAll yields tableKey acts, Retains k p x.2 := by
  induction acts generalizing p with
  | nil => intro x hx; cases hx
  | cons a rest ih =>
    obtain ⟨h, a⟩ := a
    have hstep : Retains k p (p.act yields tableKey h a).2 :=
      retains_act (hne (h, a) List.mem_cons_self).symm p a
    intro x hx
    rcases List.mem_cons.1 hx with rfl | hx
    · exact hstep
    · exact hstep.trans (ih (fun b hb => hne b (List.mem_cons_of_mem _ hb)) _ x hx)

end PlainStore

end ScriptRealm
