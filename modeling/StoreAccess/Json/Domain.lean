import StoreAccess.Json.Form
import StoreAccess.Label
import StoreAccess.Policy

/-!
# The stored form of the domain

How identifiers, capabilities, grants, roles and references are written as JSON. Reading holds a
principal to the rules for identifiers. Names of roles and classes, and repeated roles in a list
of grants, are taken as they are stored.
-/

namespace StoreAccess

open JsonForm

/-! ## Identifiers -/

instance : JsonForm Principal where
  toJson p := .string p.text
  ofJson? j := j.toString?.bind fun text => (Principal.parse text).toOption

instance : JsonForm Label where
  toJson l := .string l.text
  ofJson? j := j.toString?.map Label.mk

instance : JsonForm StoreId where
  toJson id := .string id.text
  ofJson? j := j.toString?.bind StoreId.parse?

instance : JsonForm ObjectKey where
  toJson key := .ofNat key.number.toNat
  ofJson? j := j.toNat?.bind fun n => if n < UInt64.size then some ⟨.ofNat n⟩ else none

instance : JsonForm ObjectRef where
  toJson object := .object
    [("store_id", toJson object.storeId), ("class_name", toJson object.className),
      ("key", toJson object.key)]
  ofJson? j := do
    match ← j.members? ["store_id", "class_name", "key"] with
    | [storeId, className, key] =>
      return ⟨← ifPresent storeId, ← required className, ← required key⟩
    | _ => none

/-! ## Capabilities -/

instance : JsonForm Capability where
  toJson c := .string c.name
  ofJson? := ofCase? Capability.ofName?

instance : JsonForm ScopeKind where
  toJson kind := .string kind.name
  ofJson? := ofCase? ScopeKind.ofName?

/-- The member that holds the flag of a capability. -/
def Capability.flagName (c : Capability) : String := "can_" ++ c.name

instance : JsonForm CapabilitySet where
  toJson s := .object (Capability.all.map fun c => (c.flagName, toJson (s.allows c)))
  ofJson? j := do
    let members ← j.members? (Capability.all.map Capability.flagName)
    let flags : List Bool ← members.mapM required
    match flags with
    | [create, read, update, delete, query, setPermissions, modifySchema] =>
      return ⟨create, read, update, delete, query, setPermissions, modifySchema⟩
    | _ => none

instance : JsonForm Privileges where
  toJson p := toJson p.capabilities
  ofJson? j := (ofJson? j).map Privileges.mk

/-! ## Roles and grants -/

instance : JsonForm Role where
  toJson role := .object
    [("name", toJson role.name), ("members", toJson role.members.toList)]
  ofJson? j := do
    match ← j.members? ["name", "members"] with
    | [name, members] =>
      let members : List Principal ← required members
      return ⟨← required name, .ofList members⟩
    | _ => none

instance : JsonForm Grant where
  toJson g := .object [("role", toJson g.role), ("capabilities", toJson g.capabilities)]
  ofJson? j := do
    match ← j.members? ["role", "capabilities"] with
    | [role, capabilities] => return ⟨← required role, ← required capabilities⟩
    | _ => none

instance : JsonForm GrantList where
  toJson l := toJson l.entries
  ofJson? j := (ofJson? j).map GrantList.mk

instance : JsonForm RealmGrants where
  toJson realm := .object [("permissions", toJson realm.grants)]
  ofJson? j := do
    match ← j.members? ["permissions"] with
    | [grants] => return ⟨← required grants⟩
    | _ => none

instance : JsonForm ClassGrants where
  toJson c := .object [("name", toJson c.className), ("permissions", toJson c.grants)]
  ofJson? j := do
    match ← j.members? ["name", "permissions"] with
    | [className, grants] => return ⟨← required className, ← required grants⟩
    | _ => none

end StoreAccess
