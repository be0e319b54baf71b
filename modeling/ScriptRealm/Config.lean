/-!
# Configuration

What an embedder may choose about dispatch and about the names of prototypes.
-/

namespace ScriptRealm

/-- What the name tables of a prototype are looked up by. -/
inductive TableKey where
  /-- the name of the wanted member -/
  | member
  /-- the name of the prototype itself -/
  | prototypeName
deriving DecidableEq, Inhabited, Repr

def TableKey.word : TableKey → String
  | .member => "member"
  | .prototypeName => "prototype-name"

structure Config where
  tableKey : TableKey := .member
  /-- whether operations that nothing answers leave an event -/
  traceMisses : Bool := false
  hostObjectName : String := "HostObject"
deriving DecidableEq, Inhabited, Repr

/-- The configuration that holds where nothing is chosen. -/
def Config.standard : Config := {}

end ScriptRealm
