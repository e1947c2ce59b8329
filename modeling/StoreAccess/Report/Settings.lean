import StoreAccess.Grant
import StoreAccess.Scope
import StoreAccess.Text.Split

/-!
# Report settings

A report is set up by four texts: the principal that asks, the classes of the store, the roles
with their first members, and the grants. Items are trimmed and blank items do not count.

* classes: `class,class`
* roles: `role=member|member;role=member`
* grants: `scope:role:capability|capability;…`, where the scope is `store` or a class
-/

namespace StoreAccess.Report

structure RoleSeed where
  role : String
  members : List String
  deriving DecidableEq, Repr

/-- What a grant that is set up is on. -/
inductive GrantTarget where
  | store
  | ofClass (className : String)
  deriving DecidableEq, Repr

structure GrantSeed where
  target : GrantTarget
  role : String
  capabilities : CapabilitySet
  deriving DecidableEq, Repr

/-- How the store of a report is set up, and who asks. -/
structure Settings where
  principal : String
  classes : List String
  roles : List RoleSeed
  grants : List GrantSeed
  deriving DecidableEq, Repr

/-- The texts that settings are read from, those that are set. -/
structure Variables where
  principal? : Option String
  classes? : Option String
  roles? : Option String
  grants? : Option String

namespace Variables

def principalName : String := "VELLUM_PRINCIPAL"

def classesName : String := "VELLUM_CLASSES"

def rolesName : String := "VELLUM_ROLES"

def grantsName : String := "VELLUM_GRANTS"

/-- The classes of a report that does not name any. -/
def defaultClasses : String := "Document"

end Variables

namespace Settings

/-! ## Refusals -/

def missingPrincipal : AccessError := .invalidArgument s!"{Variables.principalName} is required"

def blankPrincipal : AccessError :=
  .invalidArgument s!"{Variables.principalName} must not be empty"

def noClasses : AccessError :=
  .invalidArgument s!"{Variables.classesName} must name at least one class"

def malformedRole (item : String) : AccessError :=
  .invalidArgument
    s!"invalid {Variables.rolesName} entry '{item}': expected role=member|member"

def malformedGrant (item : String) : AccessError :=
  .invalidArgument
    s!"invalid {Variables.grantsName} entry '{item}': expected scope:role:cap|cap"

/-! ## Reading -/

def parseRole (item : String) : Except AccessError RoleSeed :=
  match Text.splitFirst '=' item.toList with
  | none => .error (malformedRole item)
  | some (role, members) =>
    .ok ⟨.ofList (Text.trimmed role), Text.items '|' (.ofList members)⟩

/-- The three parts of a grant, which the first two colons part. -/
def grantParts? (item : String) : Option (String × String × String) := do
  let (scope, rest) ← Text.splitFirst ':' item.toList
  let (role, capabilities) ← Text.splitFirst ':' rest
  return (.ofList (Text.trimmed scope), .ofList (Text.trimmed role),
    .ofList (Text.trimmed capabilities))

/-- The target that a scope names. -/
def targetOf (scope : String) : GrantTarget :=
  if scope = ScopeKind.store.name then .store else .ofClass scope

def parseGrant (item : String) : Except AccessError GrantSeed :=
  match grantParts? item with
  | none => .error (malformedGrant item)
  | some (scope, role, capabilities) => do
    return ⟨targetOf scope, role, ← CapabilitySet.parse (Text.items '|' capabilities)⟩

def parse (principal classes roles grants : String) : Except AccessError Settings := do
  let principal := Text.trim principal
  if principal = "" then throw blankPrincipal
  let classes := Text.items ',' classes
  if classes.isEmpty then throw noClasses
  return {
    principal
    classes
    roles := ← (Text.items ';' roles).mapM parseRole
    grants := ← (Text.items ';' grants).mapM parseGrant }

/-- Reads settings from the texts that are set. The principal must be; there is a class by
default, and no roles and grants. -/
def ofVariables (given : Variables) : Except AccessError Settings := do
  match given.principal? with
  | none => throw missingPrincipal
  | some principal =>
    parse principal (given.classes?.getD Variables.defaultClasses)
      (given.roles?.getD "") (given.grants?.getD "")

end Settings

end StoreAccess.Report
