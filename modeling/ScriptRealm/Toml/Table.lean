/-!
# Tables of configuration texts

Values, and tables while they are being filled. A table may be spread over a text, but each of its
parts is given once: a header opens a table once, a key is bound once, and a table that was made by
dotted keys or by a header is not reopened by the other.
-/

namespace ScriptRealm.Toml

/-- A value. Of the scalars that no setting can have, only the kind is kept. -/
inductive Value where
  | string (s : String)
  | boolean (b : Bool)
  | integer (i : Int)
  | float
  | dateTime
  | array (items : List Value)
  | table (entries : List (String × Value))
deriving Inhabited

/-- How a table came to be. -/
inductive Origin where
  /-- by its own header -/
  | header
  /-- on the way to a table named by a longer header -/
  | passage
  /-- on the way of a dotted key -/
  | dotted
deriving DecidableEq

/-- What a name in a table that is being filled is bound to. -/
inductive Item where
  | value (v : Value)
  | table (origin : Origin) (entries : List (String × Item))
  /-- tables opened one after the other by headers in double brackets, the last one first -/
  | tables (earlier : List (List (String × Item))) (last : List (String × Item))
deriving Inhabited

abbrev Entries := List (String × Item)

namespace Entries

/-- Binds a name that is bound already to something new. -/
def replace (entries : Entries) (name : String) (item : Item) : Entries :=
  entries.map fun e => if e.1 = name then (name, item) else e

/-- Changes the table at the end of a path, making the tables on the way. -/
def modifyAt (change : Entries → Option Entries) : List String → Entries → Option Entries
  | [], entries => change entries
  | k :: path, entries =>
    match entries.lookup k with
    | none => do
      let inner ← modifyAt change path []
      return entries ++ [(k, .table .passage inner)]
    | some (.table origin inner) => do
      return entries.replace k (.table origin (← modifyAt change path inner))
    | some (.tables earlier last) => do
      return entries.replace k (.tables earlier (← modifyAt change path last))
    | some (.value _) => none

/-- Opens a table by its header, for the first time. -/
def openTable (name : String) (entries : Entries) : Option Entries :=
  match entries.lookup name with
  | none => some (entries ++ [(name, .table .header [])])
  | some (.table .passage inner) => some (entries.replace name (.table .header inner))
  | some _ => none

/-- Opens one more table of an array of tables. -/
def openElement (name : String) (entries : Entries) : Option Entries :=
  match entries.lookup name with
  | none => some (entries ++ [(name, .tables [] [])])
  | some (.tables earlier last) => some (entries.replace name (.tables (last :: earlier) []))
  | some _ => none

/-- Binds a name that is free. -/
def bindName (name : String) (v : Value) (entries : Entries) : Option Entries :=
  match entries.lookup name with
  | none => some (entries ++ [(name, .value v)])
  | some _ => none

/-- Binds a dotted key, given as the names before the last dot and the last name. All tables on the
way must be open to dotted keys, and the innermost must have been made by one. -/
def bindDotted (name : String) (v : Value) : List String → Entries → Option Entries
  | [], entries => entries.bindName name v
  | k :: path, entries =>
    match entries.lookup k with
    | none => do
      let inner ← bindDotted name v path []
      return entries ++ [(k, .table .dotted inner)]
    | some (.table .dotted inner) => do
      return entries.replace k (.table .dotted (← bindDotted name v path inner))
    | some (.table .passage inner) => do
      if path = [] then none
      else return entries.replace k (.table .passage (← bindDotted name v path inner))
    | some (.table .header _) => none
    | some (.tables earlier last) => do
      if path = [] then none
      else return entries.replace k (.tables earlier (← bindDotted name v path last))
    | some (.value _) => none

end Entries

mutual

/-- The value that a finished item stands for. -/
def Item.toValue : Item → Value
  | .value v => v
  | .table _ entries => .table (entriesToValues entries)
  | .tables earlier last =>
    .array (elementsToValues earlier ++ [.table (entriesToValues last)])

/-- The values of finished entries. -/
def entriesToValues : List (String × Item) → List (String × Value)
  | [] => []
  | (name, item) :: r => (name, item.toValue) :: entriesToValues r

/-- The values of the tables of an array, given last one first. -/
def elementsToValues : List (List (String × Item)) → List Value
  | [] => []
  | entries :: r => elementsToValues r ++ [.table (entriesToValues entries)]

end

end ScriptRealm.Toml
