import ScriptRealm.Session.Fixture

/-!
# Workbenches

The values of a session: the store, the host's objects, and bindings.
-/

namespace ScriptRealm.Session

structure Workbench where
  machine : Machine := ⟨.empty, #[]⟩
  host : Host := .empty
  bindings : Assoc Value := ∅

namespace Workbench

def store (w : Workbench) : Store :=
  w.machine.store

def withStore (w : Workbench) (s : Store) : Workbench :=
  { w with machine := { w.machine with store := s } }

/-- A workbench with an empty log, and the lines that the log had. -/
def takeLog (w : Workbench) : List String × Workbench :=
  (w.machine.log.toList.map (·.line), { w with machine := { w.machine with log := #[] } })

/-- Binds a variable. -/
def setVariable (w : Workbench) (name : String) (v : Value) : Workbench :=
  { w with bindings := w.bindings.insert name v }

/-- Binds a variable, if a name is given. -/
def bind? (w : Workbench) (name : Option String) (v : Value) : Workbench :=
  (name.map (w.setVariable · v)).getD w

def newList (items : List Value) : StateM Workbench ListRef := fun w =>
  let (l, s) := w.store.newList items
  (l, w.withStore s)

def newMap (entries : List (String × Value)) : StateM Workbench MapRef := fun w =>
  let (m, s) := w.store.newMap (.ofList entries)
  (m, w.withStore s)

/-- Wraps a value in lists of one item. -/
def nest : Nat → Value → StateM Workbench Value
  | 0, v => pure v
  | n + 1, v => do nest n (.list (← newList [v]))

/-- Registers an iterable that yields what a program produces. -/
def newIterable (yields : Program (List Value)) : StateM Workbench IterableRef := fun w =>
  (⟨w.host.iterables.size⟩,
    { w with host := { w.host with iterables := w.host.iterables.push yields } })

/-- Registers an iterable over a list. -/
def newRestartable (l : ListRef) : StateM Workbench IterableRef :=
  newIterable (yieldList l)

/-- Registers an iterable that yields its items only once. -/
def newOneShot (items : List Value) : StateM Workbench IterableRef := do
  newIterable (yieldOnce (← newList items))

/-- Registers a host object. -/
def newObject (typeName : String) (object : HostObject) : StateM Workbench ObjectRef := fun w =>
  (⟨w.host.objects.size, typeName⟩,
    { w with host := { w.host with objects := w.host.objects.push object } })

end Workbench

end ScriptRealm.Session
