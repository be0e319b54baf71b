import ScriptRealm.Proofs.Collection.Content
import ScriptRealm.Proofs.Core

/-!
# Dispatch on collections

In the core realm a request on a list or a map is served by the capability for its kind, and after
a miss by the members in the name tables. The capabilities of other kinds only miss on it.
-/

namespace ScriptRealm

/-- A context over the core realm. -/
def Context.core (hostObjectName : String) (host : Host) (converter : Converter)
    (config : Config) : Context where
  realm := .core hostObjectName
  host := host
  converter := converter
  config := config

/-- The role of the prototype that serves collections of this kind. -/
def Handle.role : Handle → Role
  | .list _ => .array
  | .map _ => .object

/-- A list has nothing under a name, and takes nothing under one. -/
theorem Capability.serve_mapping_list (q : Request) {l : ListRef} (h : q.this = .list l) :
    mapping.serve q = pure q.miss := by
  cases q <;> cases h <;> rfl

/-- Neither lists nor maps have methods of their own besides those in the tables. -/
theorem Capability.invoke_adapter (h : Handle) (this key : Value) (args : List Value)
    (cast : Cast) : h.adapter.invoke this key args cast = pure .missing := by
  cases h <;> rfl

/-- The methods that change the length of a list. -/
inductive ListMethod where
  | push
  | pop
deriving DecidableEq, Repr

namespace ListMethod

def name : ListMethod → String
  | .push => "push"
  | .pop => "pop"

def call : ListMethod → Value → List Value → Program Value
  | .push => Builtin.Sequence.push
  | .pop => Builtin.Sequence.pop

end ListMethod

namespace Context

/-- The members of the name tables along a chain, child first. -/
def tableMembers (ctx : Context) (start : ProtoId) (operation : Operation) (key : Value) :
    List Accessor :=
  (ctx.realm.chain start).flatMap fun level => ctx.levelEntries level operation key

variable (hostObjectName : String) (host : Host) (converter : Converter) (config : Config)

theorem classify_collection (h : Handle) :
    (core hostObjectName host converter config).classify h.value = Builtin.roleId h.role := by
  cases h with
  | list l => exact Realm.wellKnown_core hostObjectName .array
  | map m => exact Realm.wellKnown_core hostObjectName .object

theorem chain_collection (h : Handle) :
    (core hostObjectName host converter config).realm.chain
      ((core hostObjectName host converter config).classify h.value) =
      Builtin.prototype hostObjectName h.role ::
        (Builtin.roleParent h.role).toList.map fun _ =>
          Builtin.prototype hostObjectName .object := by
  rw [classify_collection]
  exact Realm.chain_core hostObjectName h.role

/-- A request on a collection goes to the capability for its kind, and then to the tables. -/
theorem askAll_collection (h : Handle) (q : Request) (hq : q.this = h.value) :
    let ctx := core hostObjectName host converter config
    q.askAll (ctx.candidates (ctx.classify h.value) q) =
      q.orElse (h.adapter.serve q) fun _ =>
        q.askAll ((ctx.tableMembers (ctx.classify h.value) q.operation q.key).map .entry) := by
  intro ctx
  have hown : ctx.ownMembers? q.this = none := by
    rw [hq]
    cases h <;> rfl
  have hchain := chain_collection hostObjectName host converter config h
  rw [candidates, hown, tableMembers, hchain]
  cases h with
  | list l =>
    -- the root's capability is asked too, but it serves maps
    have harray : (Builtin.prototype hostObjectName .array).capability? = some .sequence := rfl
    have hobject : (Builtin.prototype hostObjectName .object).capability? = some .mapping := rfl
    simp only [Handle.role, Builtin.roleParent, Option.toList_none, Option.toList_some,
      List.map_nil, List.map_cons, List.nil_append, List.flatMap_cons, List.flatMap_nil,
      List.append_nil, List.map_append, Request.askAll_append, askAll_levelCandidates, harray,
      hobject, Option.getD_some, Capability.serve_mapping_list q hq, Request.miss_orElse,
      Request.orElse_assoc, Handle.adapter]
  | map m =>
    have hobject : (Builtin.prototype hostObjectName .object).capability? = some .mapping := rfl
    simp only [Handle.role, Builtin.roleParent, Option.toList_none, List.map_nil,
      List.nil_append, List.flatMap_cons, List.flatMap_nil, List.append_nil,
      askAll_levelCandidates, hobject, Option.getD_some, Handle.adapter]

/-- A run of a request on a collection, in terms of the capability and the tables. -/
theorem run_collection (answer : (q : Query) → Machine → Ending q.Answer) (h : Handle)
    (q : Request) (hq : q.this = h.value) (m : Machine) :
    let ctx := core hostObjectName host converter config
    let start := ctx.classify h.value
    (ctx.dispatch start q).run answer m =
      ctx.conclude start q
        ((q.orElse (h.adapter.serve q) fun _ =>
          q.askAll ((ctx.tableMembers start q.operation q.key).map .entry)).run answer m) := by
  intro ctx start
  rw [ctx.run_dispatch, askAll_collection hostObjectName host converter config h q hq]

/-! ## Members of the tables -/

/-- Writes and deletions never touch the tables. -/
theorem tableMembers_of_tables {ctx : Context} {operation : Operation}
    (h : ∀ level : Prototype, level.tables operation = []) (start : ProtoId) (key : Value) :
    ctx.tableMembers start operation key = [] := by
  simp [tableMembers, levelEntries, h]

/-- The only property that the tables hold for collections is the length of lists. -/
theorem tableMembers_read (h : Handle) (key : Value) :
    let ctx := core hostObjectName host converter config
    ctx.tableMembers (ctx.classify h.value) .read key =
      match h with
      | .list _ =>
        if config.tableKey = .member ∧ key.memberName? = some "length" then
          [.property Builtin.Sequence.length]
        else []
      | .map _ => [] := by
  intro ctx
  have hconfig : ctx.config = config := rfl
  rw [tableMembers, chain_collection]
  cases h with
  | list l =>
    cases hkey : config.tableKey with
    | prototypeName =>
      -- the tables hold no member of the name of either prototype
      simp [levelEntries, tableName?, Builtin.tables_read_prototype, Builtin.name_prototype,
        hconfig, hkey, Handle.role, Builtin.roleParent, Builtin.roleName, Builtin.members,
        Builtin.Sequence.members, Builtin.Object.members, Assoc.find?_ofList]
    | member =>
      cases hmember : key.memberName? with
      | none =>
        simp [levelEntries, tableName?, hconfig, hkey, hmember, Handle.role, Builtin.roleParent]
      | some name =>
        have hflip : name = "length" ↔ "length" = name := eq_comm
        by_cases hlength : "length" = name <;>
          simp [levelEntries, tableName?, Builtin.tables_read_prototype, hconfig, hkey, hmember,
            Handle.role, Builtin.roleParent, Builtin.members, Builtin.Sequence.members,
            Builtin.Object.members, Assoc.find?_ofList, hflip, hlength]
  | map m =>
    simp [levelEntries, Builtin.tables_read_prototype, Handle.role, Builtin.roleParent,
      Builtin.members, Builtin.Object.members, Assoc.find?_ofList]

/-- Lists have the two methods that change their length, and maps have neither. -/
theorem tableMembers_method (h : Handle) (method : ListMethod) :
    let ctx := core hostObjectName host converter config
    ctx.tableMembers (ctx.classify h.value) .invoke (.string method.name) =
      match h with
      | .list _ => if config.tableKey = .member then [.method method.call] else []
      | .map _ => [] := by
  intro ctx
  have hconfig : ctx.config = config := rfl
  rw [tableMembers, chain_collection]
  cases h <;> cases hkey : config.tableKey <;> cases method <;>
    simp [levelEntries, tableName?, Builtin.tables_invoke_prototype, Builtin.name_prototype,
      hconfig, hkey, Handle.role, Builtin.roleParent, Builtin.roleName, Builtin.members,
      Builtin.Sequence.members, Builtin.Object.members, Assoc.find?_ofList, Value.memberName?,
      ListMethod.name, ListMethod.call]

end Context

end ScriptRealm
