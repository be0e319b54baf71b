import ScriptRealm.Proofs.Dispatch.Asking

/-!
# Built-in members are blind

The built-in members look into the store and ask for views, texts, numbers, truth values and
conversions. None of them asks for an operation on members or for a constructor, nor for what the
name tables hold, and neither do the default suppliers of views and the standard converter. So the
core realm is blind to the members that are registered in it.
-/

namespace ScriptRealm

namespace Program

/-- A blind query by itself. -/
theorem isBlind_ask {q : Query} (h : q.isBlind) : (ask q).IsBlind :=
  asksOnly_ask h

/-! ## The store -/

variable (l : ListRef) (m : MapRef) (items : List Value) (entries : Assoc Value)

/-- To look into the store or to change it is no query. -/
theorem isBlind_getStore : getStore.IsBlind :=
  fun _ => trivial

theorem isBlind_list : (list l).IsBlind :=
  fun _ => trivial

theorem isBlind_map : (map m).IsBlind :=
  fun _ => trivial

theorem isBlind_newList : (newList items).IsBlind :=
  fun _ => trivial

theorem isBlind_setList : (setList l items).IsBlind :=
  fun _ => trivial

theorem isBlind_setMap : (setMap m entries).IsBlind :=
  fun _ => trivial

end Program

open Program

/-! ## Capabilities -/

namespace Capability

/-- Access by position looks at the list, and asks for conversions at most. -/
theorem isBlind_sequence : sequence.IsBlind := by
  intro q
  rcases q with ⟨this, key, cast⟩ | ⟨this, key, value, cast⟩ | ⟨this, key, args, cast⟩ | ⟨this, key⟩
  · change (readItem this key cast).IsBlind
    unfold readItem
    split
    · refine (isBlind_list _).bind fun items => ?_
      split
      · exact (cast.isBlind_apply _).bind fun _ => trivial
      · trivial
    · trivial
  · change (writeItem this key value cast).IsBlind
    unfold writeItem
    split
    · refine (isBlind_list _).bind fun items => ?_
      split
      · -- the conversion comes before the second look at the list
        refine (cast.isBlind_apply value).bind fun v =>
          (isBlind_list _).bind fun items => ?_
        split
        · exact (isBlind_setList _ _).bind fun _ => trivial
        · trivial
      · trivial
    · trivial
  · trivial
  · change (deleteItem this key).IsBlind
    unfold deleteItem
    split
    · refine (isBlind_list _).bind fun items => ?_
      split
      · exact (isBlind_setList _ _).bind fun _ =>
          (Cast.toScript.isBlind_apply _).bind fun _ => trivial
      · trivial
    · trivial

/-- Access by name looks at the map, and asks for conversions at most. -/
theorem isBlind_mapping : mapping.IsBlind := by
  intro q
  rcases q with ⟨this, key, cast⟩ | ⟨this, key, value, cast⟩ | ⟨this, key, args, cast⟩ | ⟨this, key⟩
  · change (readEntry this key cast).IsBlind
    unfold readEntry
    split
    · refine (isBlind_map _).bind fun entries => ?_
      split
      · exact (cast.isBlind_apply _).bind fun _ => trivial
      · trivial
    · trivial
  · change (writeEntry this key value cast).IsBlind
    unfold writeEntry
    split
    · exact (cast.isBlind_apply value).bind fun _ =>
        (isBlind_map _).bind fun _ => (isBlind_setMap _ _).bind fun _ => trivial
    · trivial
  · trivial
  · change (deleteEntry this key).IsBlind
    unfold deleteEntry
    split
    · refine (isBlind_map _).bind fun entries => ?_
      split
      · exact (isBlind_setMap _ _).bind fun _ =>
          (Cast.toScript.isBlind_apply _).bind fun _ => trivial
      · trivial
    · trivial

end Capability

/-! ## Members -/

namespace Builtin

namespace Object

/-- `toString` asks for the display text. -/
theorem isBlind_toText : (Accessor.method toText).IsBlind :=
  fun _ _ => AsksOnly.bind (isBlind_ask rfl) fun _ => trivial

/-- `hasOwnProperty` looks into the store and asks nothing. -/
theorem isBlind_hasOwnProperty : (Accessor.method hasOwnProperty).IsBlind :=
  fun _ _ => isBlind_getStore.bind fun _ => trivial

/-- `keys`, `values` and `entries` ask for the view that they hand out. -/
theorem isBlind_viewed (view : View) : (Accessor.method (viewed view)).IsBlind :=
  fun _ _ => AsksOnly.bind (isBlind_ask rfl) fun _ => trivial

end Object

namespace Sequence

/-- The items of a sequence are asked for as its values. -/
theorem isBlind_items (this : Value) : (items this).IsBlind :=
  AsksOnly.bind (isBlind_ask rfl) isBlind_list

theorem isBlind_construct : (Accessor.staticMethod construct).IsBlind :=
  fun args => (isBlind_newList args).bind fun _ => trivial

/-- The length of what is no list is that of its values. -/
theorem isBlind_length : (Accessor.property length).IsBlind := by
  intro this
  unfold length
  split
  · exact (isBlind_list _).bind fun _ => trivial
  · exact (isBlind_items _).bind fun _ => trivial

/-- `push` asks nothing: it works on lists only. -/
theorem isBlind_push : (Accessor.method push).IsBlind := by
  intro this args
  unfold push
  split
  · exact (isBlind_list _).bind fun _ =>
      (isBlind_setList _ _).bind fun _ => trivial
  · trivial

theorem isBlind_pop : (Accessor.method pop).IsBlind := by
  intro this args
  unfold pop
  split
  · exact (isBlind_list _).bind fun _ =>
      (isBlind_setList _ _).bind fun _ => trivial
  · trivial

/-- A search compares the items without asking. -/
theorem isBlind_indexOf : (Accessor.method indexOf).IsBlind := by
  intro this args
  refine (isBlind_items this).bind fun _ => ?_
  split <;> trivial

theorem isBlind_includes : (Accessor.method includes).IsBlind :=
  fun this _ => (isBlind_items this).bind fun _ => trivial

/-- A join asks for the values of the receiver and for texts. -/
theorem asksOnly_join (this : Value) (args : List Value) :
    (join this args).AsksOnly fun q => q = .view .values this ∨ ∃ v, q = .displayText v := by
  have hitem : ∀ item, (itemText this item).AsksOnly fun q =>
      q = .view .values this ∨ ∃ v, q = .displayText v := by
    intro item
    unfold itemText
    rcases item.isNullish || item.eq this with _ | _
    · exact asksOnly_ask (.inr ⟨item, rfl⟩)
    · trivial
  have hitems : (items this).AsksOnly fun q => q = .view .values this ∨ ∃ v, q = .displayText v :=
    (asksOnly_ask (.inl rfl)).bind fun _ _ => trivial
  have hrest : ∀ separator : String, (do
      return .string (Text.join separator (← (← items this).mapM (itemText this))) :
        Program Value).AsksOnly fun q => q = .view .values this ∨ ∃ v, q = .displayText v :=
    fun separator => hitems.bind fun items =>
      (AsksOnly.mapM hitem items).bind fun _ => trivial
  unfold join
  split
  · exact hrest ","
  · exact (asksOnly_ask (.inr ⟨_, rfl⟩)).bind hrest

/-- Views and display texts are blind queries. -/
theorem isBlind_join : (Accessor.method join).IsBlind := by
  intro this args
  refine (asksOnly_join this args).mono fun q hq => ?_
  rcases hq with rfl | ⟨v, rfl⟩
  · rfl
  · rfl

end Sequence

namespace Text

/-- What is no text is asked for its display text. -/
theorem isBlind_chars (v : Value) : (chars v).IsBlind := by
  unfold chars
  split
  · trivial
  · trivial
  · exact AsksOnly.bind (isBlind_ask rfl) fun _ => trivial

theorem isBlind_construct : (Accessor.staticMethod construct).IsBlind := by
  intro args
  unfold construct
  split
  · exact AsksOnly.bind (isBlind_ask rfl) fun _ => trivial
  · trivial

theorem isBlind_length : (Accessor.property length).IsBlind :=
  fun this => (isBlind_chars this).bind fun _ => trivial

/-- The position is read off the argument, so only the receiver may be asked for its text. -/
theorem isBlind_charAt : (Accessor.method charAt).IsBlind := by
  intro this args
  unfold charAt
  dsimp only
  split
  · exact (isBlind_chars this).bind fun _ => trivial
  · trivial

theorem isBlind_toUpperCase : (Accessor.method toUpperCase).IsBlind :=
  fun this _ => (isBlind_chars this).bind fun _ => trivial

theorem isBlind_toLowerCase : (Accessor.method toLowerCase).IsBlind :=
  fun this _ => (isBlind_chars this).bind fun _ => trivial

theorem isBlind_indexOf : (Accessor.method indexOf).IsBlind := by
  intro this args
  refine (isBlind_chars this).bind fun haystack =>
    (isBlind_chars _).bind fun needle => ?_
  split <;> trivial

/-- The receiver and the separator are asked for their texts. -/
theorem isBlind_split : (Accessor.method Text.split).IsBlind := by
  intro this args
  refine (isBlind_chars this).bind fun s => ?_
  split
  · exact (isBlind_newList _).bind fun _ => trivial
  · exact (isBlind_chars _).bind fun separator =>
      (isBlind_newList _).bind fun _ => trivial

end Text

namespace Scalar

/-- The constructor asks for the number of its argument. -/
theorem isBlind_constructNumber :
    (Accessor.staticMethod constructNumber).IsBlind := by
  intro args
  unfold constructNumber
  split
  · exact AsksOnly.bind (isBlind_ask rfl) fun _ => trivial
  · trivial

theorem isBlind_isInteger : (Accessor.staticMethod isInteger).IsBlind := by
  intro args
  unfold isInteger
  split <;> trivial

/-- The count of places is asked for as a number. -/
theorem isBlind_places (v : Value) : (places v).IsBlind := by
  unfold places
  split
  · trivial
  · refine AsksOnly.bind (isBlind_ask rfl) fun n => ?_
    split
    · split <;> trivial
    · trivial

/-- `toFixed` asks for two numbers, the places first. -/
theorem isBlind_toFixed : (Accessor.method toFixed).IsBlind :=
  fun _ _ => (isBlind_places _).bind fun _ => AsksOnly.bind (isBlind_ask rfl) fun _ => trivial

/-- The constructor asks for the truth of its argument. -/
theorem isBlind_constructBoolean :
    (Accessor.staticMethod constructBoolean).IsBlind := by
  intro args
  unfold constructBoolean
  split
  · exact AsksOnly.bind (isBlind_ask rfl) fun _ => trivial
  · trivial

end Scalar

/-- A class tells its name without being asked. -/
theorem isBlind_className : (Accessor.property className).IsBlind := by
  intro this
  unfold className
  split <;> trivial

theorem isBlind_objectClass : (Accessor.property objectClass).IsBlind := by
  intro this
  unfold objectClass
  split <;> trivial

end Builtin

/-- A set of members that are all blind. -/
structure Prototype.Members.IsBlind (m : Prototype.Members) : Prop where
  capability : ∀ c ∈ m.capability?, c.IsBlind
  constructor : ∀ a ∈ m.constructor?, a.IsBlind
  member : ∀ e ∈ m.properties ++ m.functions ++ m.staticProperties ++ m.staticFunctions,
    e.2.IsBlind

namespace Builtin

theorem Object.isBlind_members : Object.members.IsBlind where
  capability := by simpa [Object.members] using Capability.isBlind_mapping
  constructor := by simp [Object.members]
  member := by
    simp only [Object.members, List.nil_append, List.append_nil, List.forall_mem_cons]
    exact ⟨isBlind_toText, isBlind_hasOwnProperty, isBlind_viewed .keys,
      isBlind_viewed .values, isBlind_viewed .entries, by simp⟩

theorem Sequence.isBlind_members : Sequence.members.IsBlind where
  capability := by simpa [Sequence.members] using Capability.isBlind_sequence
  constructor := by simpa [Sequence.members] using isBlind_construct
  member := by
    simp only [Sequence.members, List.append_nil, List.cons_append, List.nil_append,
      List.forall_mem_cons]
    exact ⟨isBlind_length, isBlind_push, isBlind_pop,
      isBlind_indexOf, isBlind_includes, isBlind_join, by simp⟩

theorem Text.isBlind_members : Text.members.IsBlind where
  capability := by simp [Text.members]
  constructor := by simpa [Text.members] using isBlind_construct
  member := by
    simp only [Text.members, List.append_nil, List.cons_append, List.nil_append,
      List.forall_mem_cons]
    exact ⟨isBlind_length, isBlind_charAt, isBlind_toUpperCase,
      isBlind_toLowerCase, isBlind_indexOf, isBlind_split, by simp⟩

theorem Scalar.isBlind_numberMembers : Scalar.numberMembers.IsBlind where
  capability := by simp [Scalar.numberMembers]
  constructor := by simpa [Scalar.numberMembers] using isBlind_constructNumber
  member := by
    simp only [Scalar.numberMembers, List.cons_append, List.nil_append, List.forall_mem_cons]
    exact ⟨isBlind_toFixed, trivial, trivial, isBlind_isInteger, by simp⟩

theorem Scalar.isBlind_booleanMembers : Scalar.booleanMembers.IsBlind where
  capability := by simp [Scalar.booleanMembers]
  constructor := by simpa [Scalar.booleanMembers] using isBlind_constructBoolean
  member := by simp [Scalar.booleanMembers]

/-- The members of every well-known prototype are blind. -/
theorem isBlind_members (role : Role) : (members role).IsBlind := by
  cases role with
  | object => exact Object.isBlind_members
  | array => exact Sequence.isBlind_members
  | string => exact Text.isBlind_members
  | number => exact Scalar.isBlind_numberMembers
  | boolean => exact Scalar.isBlind_booleanMembers
  | hostClass =>
    exact ⟨by simp [members], by simp [members], by simpa [members] using isBlind_className⟩
  | hostObject =>
    exact ⟨by simp [members], by simp [members],
      by simpa [members] using isBlind_objectClass⟩

end Builtin

/-! ## Suppliers and the converter -/

/-- The keys of an iterable take a drain, which is a blind query; those of collections are read off
the store. -/
theorem View.isBlind_defaultKeys (owner : Owner) (this : Value) :
    (View.defaultKeys owner this).IsBlind := by
  unfold View.defaultKeys
  split
  · exact (isBlind_map _).bind fun _ => isBlind_newList _
  · exact (isBlind_list _).bind fun _ => isBlind_newList _
  · exact isBlind_newList _
  · exact AsksOnly.bind (isBlind_ask rfl) fun _ => isBlind_newList _
  · exact isBlind_newList _

/-- So do the values of an iterable. A list is its own values. -/
theorem View.isBlind_defaultValues (owner : Owner) (this : Value) :
    (View.defaultValues owner this).IsBlind := by
  unfold View.defaultValues
  split
  · trivial
  · exact (isBlind_map _).bind fun _ => isBlind_newList _
  · exact isBlind_newList _
  · exact AsksOnly.bind (isBlind_ask rfl) fun _ => isBlind_newList _
  · exact isBlind_newList _

/-- The entries are made of the two other views, which are asked for. -/
theorem View.isBlind_defaultEntries (owner : Owner) (this : Value) :
    (View.defaultEntries owner this).IsBlind := by
  refine AsksOnly.bind (isBlind_ask rfl) fun _ =>
    AsksOnly.bind (isBlind_ask rfl) fun _ => (isBlind_list _).bind fun _ =>
      (isBlind_list _).bind fun _ => ?_
  split <;> exact isBlind_newList _

namespace Converter

/-- A refusal looks into the store for the text of the value. -/
theorem isBlind_refuse (v : Value) (target : HostType) :
    (refuse v target).IsBlind :=
  isBlind_getStore.bind fun _ => trivial

/-- Only a list that is made of an iterable takes a query. -/
theorem isBlind_convert (v : Value) (target : HostType) :
    (convert v target).IsBlind := by
  cases target with
  | boolean => trivial
  | text => exact isBlind_getStore.bind fun _ => trivial
  | integer | float | map =>
    unfold convert
    dsimp only
    split
    · trivial
    · exact isBlind_refuse _ _
  | char =>
    unfold convert
    dsimp only
    split
    · trivial
    · split
      · trivial
      · exact isBlind_refuse _ _
    · exact isBlind_refuse _ _
  | list =>
    unfold convert
    dsimp only
    split
    · trivial
    · exact (isBlind_newList _).bind fun _ => trivial
    · exact AsksOnly.bind (isBlind_ask rfl) fun _ =>
        (isBlind_newList _).bind fun _ => trivial
    · exact isBlind_refuse _ _

end Converter

/-! ## The core realm -/

/-- A well-known prototype with its built-in members is blind to what stands beside them. -/
theorem Builtin.isBlind_prototype (hostObjectName : String) (role : Role) :
    (Builtin.prototype hostObjectName role).AsksOnly (·.isBlind) where
  member table name a ha := by
    obtain ⟨e, he, rfl⟩ := exists_member_of_find? ha
    exact (isBlind_members role).member e he
  constructor a ha := (isBlind_members role).constructor a ha
  capability c hc := (isBlind_members role).capability c hc
  supplier view owner this := by
    rcases view
    · exact View.isBlind_defaultKeys owner this
    · exact View.isBlind_defaultValues owner this
    · exact View.isBlind_defaultEntries owner this

/-- With the standard converter and nothing from the host, the core realm is blind. -/
theorem Context.isBlind_core (hostObjectName : String) (config : Config) :
    (Context.mk (Realm.core hostObjectName) .empty .standard config).IsBlind where
  prototype p hp := by
    obtain ⟨role, rfl⟩ := Realm.exists_role hostObjectName hp
    exact Builtin.isBlind_prototype hostObjectName role
  own v c hc := by cases v <;> cases hc
  drain i := trivial
  toScript v := trivial
  toHost v hint := by
    cases hint with
    | none => trivial
    | some target => exact Converter.isBlind_convert v target

end ScriptRealm
