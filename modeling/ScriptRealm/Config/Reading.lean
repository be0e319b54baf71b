import ScriptRealm.Config
import ScriptRealm.Text.Search
import ScriptRealm.Toml.Document

/-!
# Reading a configuration

The settings that a configuration text makes. Every section and setting is optional, unknown ones
are passed over, and a section may be written as an array of its settings in their order.
-/

namespace ScriptRealm

/-- Why a file cannot be read. -/
inductive FileProblem where
  | notFound
  | isDirectory
  | nulInPath
deriving DecidableEq, Repr

def FileProblem.message : FileProblem → String
  | .notFound => "No such file or directory (os error 2)"
  | .isDirectory => "Is a directory (os error 21)"
  | .nulInPath => "file name contained an unexpected NUL byte"

/-- Why there is no configuration. -/
inductive ConfigError where
  | unreadable (path : String) (problem : FileProblem)
  /-- the file holds no text -/
  | notText
  /-- the text is malformed, or gives a setting a value that it cannot have -/
  | malformed
deriving DecidableEq, Repr

/-- The message of an error that comes from reading a file. -/
def ConfigError.message? : ConfigError → Option String
  | .unreadable path problem =>
    some ("failed to read config file " ++ path ++ ": " ++ problem.message)
  | .notText => none
  | .malformed => none

namespace Config

open Toml (Value)

/-- A section, as a look-up of settings by name and position. -/
def settings? : Option Value → Option (String → Nat → Option Value)
  | none => some fun _ _ => none
  | some (.table entries) => some fun name _ => entries.lookup name
  | some (.array items) => some fun _ position => items[position]?
  | some .dateTime => some fun _ _ => none
  | some _ => none

/-- A table key by its word. -/
def tableKeyOfWord? (word : String) : Option TableKey :=
  if word = TableKey.member.word then some .member
  else if word = TableKey.prototypeName.word then some .prototypeName
  else none

/-- A table key: its word, or a table that holds nothing but an empty entry of that name. -/
def tableKey? : Value → Option TableKey
  | .string word => tableKeyOfWord? word
  | .table [(word, .table [])] => tableKeyOfWord? word
  | .table [(word, .array [])] => tableKeyOfWord? word
  | _ => none

def flag? : Value → Option Bool
  | .boolean b => some b
  | _ => none

def name? : Value → Option String
  | .string s => some s
  | _ => none

/-- A setting: its default if it is not given, and nothing if it is given a wrong value. -/
def setting {α : Type} (standard : α) (read : Value → Option α) : Option Value → Option α
  | none => some standard
  | some v => read v

/-- The configuration that a root table makes. -/
def ofTable? (root : List (String × Value)) : Option Config := do
  let dispatch ← settings? (root.lookup "dispatch")
  let prototypes ← settings? (root.lookup "prototypes")
  let tableKey ← setting standard.tableKey tableKey? (dispatch "table_key" 0)
  let traceMisses ← setting standard.traceMisses flag? (dispatch "trace_misses" 1)
  let hostObjectName ← setting standard.hostObjectName name? (prototypes "host_object_name" 0)
  return { tableKey, traceMisses, hostObjectName }

/-- The configuration of a text. -/
def parse (text : String) : Except ConfigError Config :=
  match (Toml.parse? text).bind ofTable? with
  | some config => .ok config
  | none => .error .malformed

/-- What becomes of loading a path at which there is no file. A path of dots and slashes alone is
that of a directory. -/
def ofMissing (path : String) : ConfigError :=
  let parts := Text.split ['/'] path.toList
  if '\x00' ∈ path.toList then .unreadable path .nulInPath
  else if path ≠ "" ∧ parts.all (· ∈ [[], ['.'], ['.', '.']]) then .unreadable path .isDirectory
  else .unreadable path .notFound

/-- The configuration of a file with the given bytes. -/
def ofBytes (bytes : ByteArray) : Except ConfigError Config :=
  match String.fromUTF8? bytes with
  | some text => parse text
  | none => .error .notText

end Config

end ScriptRealm
