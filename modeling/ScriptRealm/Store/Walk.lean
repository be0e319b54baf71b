import ScriptRealm.Store.Path

/-!
# Walks through the store

A walk through collections keeps one stack of those that it is inside of, the innermost first. All
parts of the walk share this stack: a part that enters a collection pushes it, and pops it when it
leaves. Nothing here says that a walk ends.
-/

namespace ScriptRealm

/-- A part of a walk, which changes the stack that it is given. -/
abbrev Walk := StateT (List Handle) Option

namespace Walk

variable {α : Type}

/-- Whether the walk is inside of a collection. -/
def isInside (h : Handle) : Walk Bool := do
  return (← get).contains h

/-- Enters a collection. -/
def enter (h : Handle) : Walk Unit :=
  modify (h :: ·)

/-- Leaves the collection that was entered last. -/
def leave : Walk Unit :=
  modify List.tail

/-- What a walk comes to that begins outside of all collections. -/
def outcome [Inhabited α] (w : Walk α) : α :=
  ((w.run []).map Prod.fst).getD default

end Walk

end ScriptRealm
