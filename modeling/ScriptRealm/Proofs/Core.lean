import ScriptRealm.Builtin
import ScriptRealm.Proofs.Assoc
import ScriptRealm.Proofs.Dispatch.Walk

/-!
# The core realm

The realm of the well-known prototypes with their built-in members, and whom an operation asks in
it. Values of all shapes but the root's own go through two levels.
-/

namespace ScriptRealm

/-! ## Well-known prototypes -/

namespace Builtin

/-- The position of a well-known prototype. -/
def roleId : Role → ProtoId
  | .object => ⟨0⟩
  | .array => ⟨1⟩
  | .string => ⟨2⟩
  | .number => ⟨3⟩
  | .boolean => ⟨4⟩
  | .hostClass => ⟨5⟩
  | .hostObject => ⟨6⟩

/-- The name of a well-known prototype. -/
def roleName (hostObjectName : String) : Role → String
  | .object => "Object"
  | .array => "Array"
  | .string => "String"
  | .number => "Number"
  | .boolean => "Boolean"
  | .hostClass => "Class"
  | .hostObject => hostObjectName

/-- The parent of a well-known prototype: all but the root have the root. -/
def roleParent : Role → Option ProtoId
  | .object => none
  | _ => some ⟨0⟩

/-- A well-known prototype before it is given members. -/
def barePrototype (hostObjectName : String) (role : Role) : Prototype where
  id := roleId role
  kind := .role role
  name := roleName hostObjectName role
  parent := roleParent role

/-- A well-known prototype with its built-in members. -/
def prototype (hostObjectName : String) (role : Role) : Prototype :=
  (barePrototype hostObjectName role).install (members role)

theorem parent_prototype (hostObjectName : String) (role : Role) :
    (prototype hostObjectName role).parent = roleParent role := by
  simp only [prototype, Prototype.install, barePrototype]

theorem name_prototype (hostObjectName : String) (role : Role) :
    (prototype hostObjectName role).name = roleName hostObjectName role := rfl

/-- The tables that are searched for reading are those of properties. -/
theorem tables_read_prototype (hostObjectName : String) (role : Role) :
    (prototype hostObjectName role).tables .read =
      [.ofList (members role).properties, .ofList (members role).staticProperties] := rfl

/-- The tables that are searched for calls are those of functions. -/
theorem tables_invoke_prototype (hostObjectName : String) (role : Role) :
    (prototype hostObjectName role).tables .invoke =
      [.ofList (members role).functions, .ofList (members role).staticFunctions] := rfl

/-- What the tables of a well-known prototype hold is one of its built-in members. -/
theorem exists_member_of_find? {hostObjectName : String} {role : Role} {table : NameTable}
    {name : String} {a : Accessor}
    (ha : ((prototype hostObjectName role).table table).find? name = some a) :
    ∃ e ∈ (members role).properties ++ (members role).functions ++
      (members role).staticProperties ++ (members role).staticFunctions, e.2 = a := by
  have hentry : ∀ {entries : List (String × Accessor)},
      (Assoc.ofList entries).find? name = some a → ∃ e ∈ entries, e.2 = a := by
    intro entries hfind
    rw [Assoc.find?_ofList] at hfind
    obtain ⟨e, he, rfl⟩ := Option.map_eq_some_iff.1 hfind
    exact ⟨e, List.mem_reverse.1 (List.mem_of_find?_eq_some he), rfl⟩
  cases table <;>
    obtain ⟨e, he, rfl⟩ := hentry ha <;>
    exact ⟨e, by simp [he], rfl⟩

/-- The well-known prototypes stand in the order of their roles. -/
theorem prototypes_bare (hostObjectName : String) :
    (Registry.bare hostObjectName).prototypes =
      (roles.map (barePrototype hostObjectName)).toArray := by
  simp [Registry.bare, Registry.push, Registry.nextId, ProtoId.ofPosition, Registry.get?,
    Prototype.make, roles, barePrototype, roleId, roleName, roleParent]

theorem wellKnown_bare (hostObjectName : String) (role : Role) :
    (Registry.bare hostObjectName).wellKnown.of role = roleId role := by
  cases role <;> rfl

/-- Registering the built-in members leaves each prototype at its place. -/
theorem prototypes_core (hostObjectName : String) :
    (Registry.core hostObjectName).prototypes = (roles.map (prototype hostObjectName)).toArray := by
  simp only [Registry.core, roles, List.foldl, Builtin.install, prototypes_bare, wellKnown_bare]
  simp [roleId, prototype]

end Builtin

/-! ## The realm -/

/-- The realm of the well-known prototypes with all built-in members. -/
def Realm.core (hostObjectName : String) : Realm :=
  (Registry.core hostObjectName).freeze

namespace Realm

variable (hostObjectName : String)

theorem prototypes_core :
    (core hostObjectName).prototypes =
      (Builtin.roles.map (Builtin.prototype hostObjectName)).toArray := by
  have hfreeze : ∀ r : Registry, r.freeze.prototypes = r.prototypes := fun _ => rfl
  rw [core, hfreeze, Builtin.prototypes_core]

/-- The core realm has no prototypes but the well-known ones. -/
theorem exists_role {p : Prototype} (hp : p ∈ (core hostObjectName).prototypes) :
    ∃ role, p = Builtin.prototype hostObjectName role := by
  rw [prototypes_core, List.mem_toArray] at hp
  obtain ⟨role, -, rfl⟩ := List.mem_map.1 hp
  exact ⟨role, rfl⟩

theorem wellKnown_core (role : Role) :
    (core hostObjectName).wellKnown.of role = Builtin.roleId role := by
  cases role <;> rfl

/-- The handle of a role leads to the prototype of the role. -/
theorem get?_core (role : Role) :
    (core hostObjectName).get? (Builtin.roleId role) =
      some (Builtin.prototype hostObjectName role) := by
  rw [get?, prototypes_core, Builtin.roles]
  cases role <;> rfl

theorem size_core : (core hostObjectName).size = 7 := by
  rw [size, prototypes_core]
  rfl

/-- One step of the walk to the root. -/
theorem chainUpTo_succ {r : Realm} {id : ProtoId} {p : Prototype} (h : r.get? id = some p)
    (fuel : Nat) :
    r.chainUpTo (fuel + 1) id = p :: (p.parent.map (r.chainUpTo fuel)).getD [] := by
  rw [chainUpTo, h]

/-- A chain is made of prototypes that handles lead to. -/
theorem exists_get?_of_mem_chain {r : Realm} {id : ProtoId} {p : Prototype} (h : p ∈ r.chain id) :
    ∃ q, r.get? q = some p := by
  -- induction on the bound of the chain, for every place that it may begin at
  have hchain : ∀ (fuel : Nat) (id : ProtoId),
      p ∈ r.chainUpTo fuel id → ∃ q, r.get? q = some p := by
    intro fuel
    induction fuel with
    | zero => simp [chainUpTo]
    | succ fuel ih =>
      intro id hp
      unfold chainUpTo at hp
      cases hget : r.get? id with
      | none => simp [hget] at hp
      | some first =>
        rw [hget] at hp
        rcases List.mem_cons.1 hp with rfl | hrest
        · exact ⟨id, hget⟩
        · cases hparent : first.parent with
          | none => simp [hparent] at hrest
          | some q => exact ih q (by simpa [hparent] using hrest)
  exact hchain r.size id h

/-- A chain consists of prototypes of the realm. -/
theorem mem_of_mem_chain {r : Realm} {id : ProtoId} {p : Prototype} (h : p ∈ r.chain id) :
    p ∈ r.prototypes := by
  obtain ⟨q, hq⟩ := exists_get?_of_mem_chain h
  exact Array.mem_of_getElem? hq

/-- The root is the only level above a well-known prototype. -/
theorem chain_core (role : Role) :
    (core hostObjectName).chain (Builtin.roleId role) =
      Builtin.prototype hostObjectName role ::
        (Builtin.roleParent role).toList.map fun _ =>
          Builtin.prototype hostObjectName .object := by
  -- the first level uses one turn of seven, and the root one of the six that are left
  have hroot : (core hostObjectName).chainUpTo 6 ⟨0⟩ =
      [Builtin.prototype hostObjectName .object] := by
    have hget := get?_core hostObjectName .object
    simp only [Builtin.roleId] at hget
    rw [chainUpTo_succ hget, Builtin.parent_prototype]
    simp only [Builtin.roleParent, Option.map_none, Option.getD_none]
  rw [chain, size_core, chainUpTo_succ (get?_core hostObjectName role), Builtin.parent_prototype]
  cases role <;>
    simp only [Builtin.roleParent, Option.map_none, Option.getD_none, Option.map_some,
      Option.getD_some, Option.toList_none, Option.toList_some, List.map_nil, List.map_cons, hroot]

end Realm

end ScriptRealm
