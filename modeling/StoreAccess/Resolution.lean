import StoreAccess.View

/-!
# Resolving privileges

The privileges of a principal at a scope are what the grants of the scope give to the roles that
include the principal, together with the template of the scope if no grant there speaks of the
role everyone. Every grant is looked at, in order, so a role that cannot be read fails the whole
resolution.
-/

namespace StoreAccess.GrantSource

/-- A class scope names a class of the schema. -/
def requireClassScope (source : GrantSource) (className : String) : Except AccessError Unit := do
  if Text.isBlank className then throw .blankClassScope
  if ← source.hasClass className then return else throw (.unknownClassScope className)

/-- The grants that apply at a scope. A class of the schema for which no grants are kept has
none. -/
def grantsAt (source : GrantSource) : Scope → Except AccessError GrantList
  | .store => return (← source.realmGrants).grants
  | .ofClass className => do
    source.requireClassScope className
    match ← source.classGrants className with
    | some kept => return kept.grants
    | none => return .empty
  | .object object => do
    source.requireClassScope object.className
    source.objectGrants object

/-- Whether a role includes a principal. The role everyone does without being looked up, and a
role that does not exist includes nobody. -/
def roleIncludes (source : GrantSource) (p : Principal) (role : String) :
    Except AccessError Bool := do
  if namesEveryone role then return true
  match ← source.findRole role with
  | some found => return found.hasMember p
  | none => return false

/-- Adds what the grants give to a principal to what is allowed already. -/
def addGrants (source : GrantSource) (p : Principal) :
    CapabilitySet → List Grant → Except AccessError CapabilitySet
  | merged, [] => .ok merged
  | merged, g :: gs => do
    if ← source.roleIncludes p g.role then source.addGrants p (merged.union g.capabilities) gs
    else source.addGrants p merged gs

/-- What a principal may do at a scope. -/
def privileges (source : GrantSource) (p : Principal) (scope : Scope) :
    Except AccessError Privileges := do
  let grants ← source.grantsAt scope
  let start := (Policy.fallback? scope.kind grants).getD .none
  return ⟨← source.addGrants p start grants.entries⟩

/-- What the principal with an identifier may do at a scope. -/
def privilegesOf (source : GrantSource) (principal : String) (scope : Scope) :
    Except AccessError Privileges := do
  source.privileges (← Principal.parse principal) scope

end StoreAccess.GrantSource
