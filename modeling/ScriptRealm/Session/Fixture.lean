import ScriptRealm.Context

/-!
# Fixtures

Host parts that are described by data: bodies of callbacks, tables of members, view suppliers,
converters that keep a log, and iterables.
-/

namespace ScriptRealm.Session

/-! ## Callbacks -/

/-- What a callback does with its receiver and arguments. -/
inductive Body where
  /-- gives the receiver back -/
  | this
  /-- gives the arguments back as a fresh list -/
  | args
  | argc
  /-- the display text of the receiver -/
  | display
  | ret (v : Value)
  | arg (position : Nat)
  | throw (e : ScriptError)
  /-- reads a member of the receiver; a miss is undefined -/
  | read (key : Value) (cast : Cast)
  /-- writes a member of the receiver, and tells whether it was accepted -/
  | write (key value : Value)
  /-- calls a member of the receiver with the same arguments; a miss is undefined -/
  | invoke (key : Value)
  /-- appends the receiver to a list -/
  | push (l : ListRef)
  /-- writes a line to the log before it does something else -/
  | log (line : String) (body : Body)

/-- The found value, or undefined. -/
def orUndefined : Lookup → Value
  | .found v => v
  | .missing => .undefined

/-- The program of a callback. -/
def Body.run (this : Value) (args : List Value) : Body → Program Value
  | .this => return this
  | .args => return .list (← Program.newList args)
  | .argc => return .count args.length
  | .display => return .string (← Program.ask (.displayText this))
  | .ret v => return v
  | .arg position => return .argument args position
  | .throw e => .fail e
  | .read key cast => return orUndefined (← Program.ask (.read this key cast))
  | .write key value => return .boolean (← Program.ask (.write this key value .identity))
  | .invoke key => return orUndefined (← Program.ask (.invoke this key args .identity))
  | .push l => do
    Program.setList l ((← Program.list l) ++ [this])
    return .undefined
  | .log line body => do
    Program.note line
    body.run this args

def Body.property (b : Body) : Accessor :=
  .property fun this => b.run this []

def Body.method (b : Body) : Accessor :=
  .method fun this args => b.run this args

def Body.staticProperty (b : Body) : Accessor :=
  .staticProperty (b.run .undefined [])

def Body.staticMethod (b : Body) : Accessor :=
  .staticMethod fun args => b.run .undefined args

/-! ## Tables of members -/

/-- A capability with members of its own. The data is kept in a map of the store. -/
structure MemberTable where
  tag : String
  data : MapRef
  writable : List String
  calls : List (String × Body)
  failing : List String

namespace MemberTable

/-- Logs an operation, and refuses it for the names that are to fail. -/
def enter (t : MemberTable) (operation : Operation) (key : Value) : Program Unit := do
  let name := key.memberName?
  Program.note (t.tag ++ "." ++ operation.name ++ " " ++ name.getD "-")
  match name with
  | some k =>
    if k ∈ t.failing then
      .fail (.type (t.tag ++ " refuses " ++ operation.name ++ " of " ++ k))
  | none => pure ()

/-- Each operation leaves a line first, and then fails, serves or misses as the table says. -/
def read (t : MemberTable) (_this key : Value) (cast : Cast) : Program Lookup := do
  t.enter .read key
  match key.memberName?.bind (← Program.map t.data).find? with
  | some v => return .found (← cast.apply v)
  | none => return .missing

def write (t : MemberTable) (_this key value : Value) (cast : Cast) : Program Bool := do
  t.enter .write key
  match key.memberName? with
  | some k =>
    if k ∈ t.writable then
      let v ← cast.apply value
      Program.setMap t.data ((← Program.map t.data).insert k v)
      return true
    else return false
  | none => return false

def invoke (t : MemberTable) (this key : Value) (args : List Value) (cast : Cast) :
    Program Lookup := do
  t.enter .invoke key
  match key.memberName?.bind fun k => t.calls.lookup k with
  | some body => return .found (← cast.apply (← body.run this args))
  | none => return .missing

def delete (t : MemberTable) (_this key : Value) : Program Lookup := do
  t.enter .delete key
  match key.memberName? with
  | some k =>
    let data ← Program.map t.data
    match data.find? k with
    | some v =>
      Program.setMap t.data (data.erase k)
      return .found (← Cast.toScript.apply v)
    | none => return .missing
  | none => return .missing

/-- The four operations as a capability. -/
def capability (t : MemberTable) : Capability :=
  ⟨t.read, t.write, t.invoke, t.delete⟩

end MemberTable

/-! ## View suppliers -/

/-- A supplier that is described by data. -/
inductive SupplierKind where
  /-- the default supplier of a view -/
  | standard (view : View)
  /-- the default values in reverse, in a fresh list -/
  | reverse
  /-- the name of the prototype that is served -/
  | ownerName
  | const (items : List Value)
  /-- a view through another prototype -/
  | through (proto : ProtoRef) (view : View)

def SupplierKind.supplier : SupplierKind → ViewSupplier
  | .standard .keys => View.defaultKeys
  | .standard .values => View.defaultValues
  | .standard .entries => View.defaultEntries
  | .reverse => fun owner this => do
    Program.newList (← Program.list (← View.defaultValues owner this)).reverse
  | .ownerName => fun owner _ => Program.newList [.string owner.name]
  | .const items => fun _ _ => Program.newList items
  | .through proto view => fun _ this => Program.ask (.viewThrough proto view this)

/-! ## Converters -/

/-- A converter that logs each conversion before it does what the standard one does. -/
structure ConverterKind where
  /-- whether undefined has no form that scripts see -/
  strict : Bool
  /-- a list that loses its last item whenever a host form is wanted -/
  pops : Option ListRef

/-- The diagnostic text of the type that a conversion aims at. -/
def describeHint : Option HostType → String
  | none => "None"
  | some target => "Some(" ++ target.name ++ ")"

/-- The standard converter behind a log, perhaps a strict one or one that changes a list. -/
def ConverterKind.converter (k : ConverterKind) : Converter where
  toScript v := do
    let text := (← Program.getStore).describe v
    Program.note ("to_script " ++ text)
    if k.strict ∧ v = .undefined then .fail (.conversion (.noScriptRepresentation text))
    else Converter.standard.toScript v
  toHost v hint := do
    Program.note ("to_host " ++ describeHint hint ++ " " ++ (← Program.getStore).describe v)
    match k.pops with
    | some l => Program.setList l (← Program.list l).dropLast
    | none => pure ()
    Converter.standard.toHost v hint

/-! ## Iterables -/

/-- Yields what a list holds at that moment. -/
def yieldList (l : ListRef) : Program (List Value) := do
  Program.note "drain"
  Program.list l

/-- Yields what a list holds, and empties it. -/
def yieldOnce (l : ListRef) : Program (List Value) := do
  Program.note "drain"
  let items ← Program.list l
  Program.setList l []
  return items

end ScriptRealm.Session
