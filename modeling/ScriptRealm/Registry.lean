import ScriptRealm.Prototype

/-!
# Registries

The prototypes of a realm while they are being set up. A handle leads to a position in the arena.
Positions are given out in ascending order, so a prototype's parent, which exists before it, has a
smaller handle; but there are only so many handles, and an arena that outgrows them gives the first
ones out again.
-/

namespace ScriptRealm

/-- The handles of the prototypes that every realm has. -/
structure WellKnown where
  object : ProtoId
  array : ProtoId
  string : ProtoId
  number : ProtoId
  boolean : ProtoId
  hostClass : ProtoId
  hostObject : ProtoId
deriving DecidableEq, Inhabited, Repr

/-- The handle of a role. -/
def WellKnown.of (w : WellKnown) : Role → ProtoId
  | .object => w.object
  | .array => w.array
  | .string => w.string
  | .number => w.number
  | .boolean => w.boolean
  | .hostClass => w.hostClass
  | .hostObject => w.hostObject

structure Registry where
  prototypes : Array Prototype
  /-- the prototype of each name -/
  names : Assoc ProtoId
  wellKnown : WellKnown

/-- Why a step of the setup fails. -/
inductive SetupError where
  | unknownHandle (id : ProtoId)
  | misuse (cause : Misuse)
deriving DecidableEq, Repr

namespace Registry

/-- The prototype of a handle. -/
def get? (r : Registry) (id : ProtoId) : Option Prototype :=
  r.prototypes[id.index]?

/-- The prototype of a name. -/
def find? (r : Registry) (name : String) : Option ProtoId :=
  r.names.find? name

/-- The handle that a reference points at. -/
def resolve? (r : Registry) : ProtoRef → Option ProtoId
  | .name name => r.find? name
  | .handle id => some id
  | .role word => (Role.ofWord? word).map r.wellKnown.of

/-- The names of the prototypes, in order of definition. -/
def prototypeNames (r : Registry) : List String :=
  r.prototypes.toList.map (·.name)

/-- The handle of the next prototype. -/
def nextId (r : Registry) : ProtoId :=
  .ofPosition r.prototypes.size

/-- Appends a prototype and binds its name. -/
def push (r : Registry) (name : String) (kind : ProtoKind) (parent : Option ProtoId) : Registry :=
  let id := r.nextId
  { r with
    prototypes := r.prototypes.push (.make id name kind (parent.bind r.get?))
    names := r.names.insert name id }

/-- A registry of the well-known prototypes alone, all of them children of the first. -/
def bare (hostObjectName : String) : Registry :=
  let root : Registry :=
    { prototypes := #[], names := ∅, wellKnown := ⟨⟨0⟩, ⟨1⟩, ⟨2⟩, ⟨3⟩, ⟨4⟩, ⟨5⟩, ⟨6⟩⟩ }
  (root.push "Object" (.role .object) none)
    |>.push "Array" (.role .array) (some ⟨0⟩)
    |>.push "String" (.role .string) (some ⟨0⟩)
    |>.push "Number" (.role .number) (some ⟨0⟩)
    |>.push "Boolean" (.role .boolean) (some ⟨0⟩)
    |>.push "Class" (.role .hostClass) (some ⟨0⟩)
    |>.push hostObjectName (.role .hostObject) (some ⟨0⟩)

/-- Defines a prototype under a name that is free, with a parent that exists. -/
def define (r : Registry) (name : String) (kind : ProtoKind) (parent : Option ProtoId) :
    Except Misuse (ProtoId × Registry) :=
  if r.names.contains name then .error (.nameTaken name)
  else
    match parent with
    | some p =>
      if p.index < r.prototypes.size then .ok (r.nextId, r.push name kind parent)
      else .error (.unknownParent p name)
    | none => .ok (r.nextId, r.push name kind none)

/-- Replaces the prototype of a handle. -/
def set (r : Registry) (id : ProtoId) (p : Prototype) : Registry :=
  { r with prototypes := r.prototypes.setIfInBounds id.index p }

/-- Changes a prototype. -/
def edit (r : Registry) (id : ProtoId) (e : Prototype.Edit) : Except SetupError Registry :=
  match r.get? id with
  | none => .error (.unknownHandle id)
  | some p =>
    match p.edit e with
    | .ok p => .ok (r.set id p)
    | .error cause => .error (.misuse cause)

/-- The own keys of a prototype, which the registry remembers from then on. -/
def ownKeys? (r : Registry) (id : ProtoId) : Option (List String × Registry) :=
  (r.get? id).map fun p => (p.ownKeys, r.set id p.cacheKeys)

end Registry

end ScriptRealm
