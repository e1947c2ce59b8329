import StoreAccess.Json.Domain
import StoreAccess.Json.Pretty
import StoreAccess.Report.Settings
import StoreAccess.Store.Basic

/-!
# The access report

A report sets up a store in one write transaction, as its settings say, and then tells what the
principal may do with the store and with each class, and which roles there are.
-/

namespace StoreAccess.Report

structure RoleLine where
  name : String
  memberCount : Nat
  includesPrincipal : Bool
  deriving DecidableEq, Repr

/-- What a principal may do in a store. -/
structure Access where
  storeId : StoreId
  principal : String
  store : Privileges
  classes : SortedMap String Privileges
  roles : List RoleLine
  deriving DecidableEq, Repr

/-! ## Setting up the store -/

/-- Creates a role unless there is one of the name. -/
def seedRole (caller : Thread) (role : String) : Action Connection Unit := do
  if namesEveryone role then return
  match (← get).view.lookUpRole caller role with
  | .ok _ => return
  | .error (.notFound _) =>
    let _ ← (Connection.backend caller).addRole caller role
    return
  | .error error => throw error

/-- Creates a role and makes its members. -/
def seedMembers (caller : Thread) (seed : RoleSeed) : Action Connection Unit := do
  seedRole caller seed.role
  seed.members.forM ((Connection.backend caller).addMember caller seed.role)

def seedGrant (caller : Thread) (seed : GrantSeed) : Action Connection Unit :=
  match seed.target with
  | .store => Connection.grantOnStore caller seed.role seed.capabilities
  | .ofClass className =>
    Connection.grantOnClass caller className seed.role seed.capabilities

/-- Sets the store up in one write transaction. -/
def setUp (caller : Thread) (settings : Settings) : Action Connection Unit := do
  Connection.begin caller
  settings.roles.forM (seedMembers caller)
  settings.grants.forM (seedGrant caller)
  Connection.commit caller

/-! ## Telling what the principal may do -/

def roleLine (view : AccessView) (caller : Thread) (principal : String) (role : Role) :
    Except AccessError RoleLine := do
  return {
    name := role.name
    memberCount := role.memberCount
    includesPrincipal := ← view.hasMember caller role.name principal }

/-- Adds the privileges on a class to those told already. -/
def addClass (view : AccessView) (caller : Thread) (told : SortedMap String Privileges)
    (className : String) : Except AccessError (SortedMap String Privileges) := do
  return told.insert className (← view.classPrivileges caller (.named (some className)))

def tell (view : AccessView) (caller : Thread) (settings : Settings) :
    Except AccessError Access := do
  let classes ← settings.classes.foldlM (addClass view caller) .empty
  let roles ← (← view.shownRoles caller).mapM (roleLine view caller settings.principal)
  return {
    storeId := view.storeId
    principal := settings.principal
    store := ← view.storePrivileges caller
    classes
    roles }

/-- Sets up a store of the given identity and tells what the principal may do in it. -/
def Access.ofSettings (caller : Thread) (id : StoreId) (settings : Settings) :
    Except AccessError Access := do
  let contents ← Contents.ofClasses settings.classes
  let principal ← Principal.parse settings.principal
  let opened : Connection :=
    ⟨id, { committed := contents, writing := false }, .ofPrincipal principal caller⟩
  match (setUp caller settings).apply opened with
  | (.error error, _) => throw error
  | (.ok _, connection) => tell connection.view caller settings

/-! ## The written report -/

def RoleLine.toJson (line : RoleLine) : Json :=
  .object
    [("name", .string line.name), ("member_count", .ofNat line.memberCount),
      ("includes_principal", .bool line.includesPrincipal)]

def Access.toJson (access : Access) : Json :=
  .object
    [("store_id", .string access.storeId.text), ("principal", .string access.principal),
      ("store", JsonForm.toJson access.store),
      ("classes", .object (access.classes.entries.map fun e => (e.1, JsonForm.toJson e.2))),
      ("roles", .array (access.roles.map RoleLine.toJson))]

/-- The report that the variables ask for, as it is printed. -/
def text (caller : Thread) (id : StoreId) (given : Variables) :
    Except AccessError String := do
  let settings ← Settings.ofVariables given
  let access ← Access.ofSettings caller id settings
  return access.toJson.pretty ++ "\n"

/-- The line that is printed in place of a report that could not be made. -/
def errorLine (error : AccessError) : String := "Error: " ++ error.inspect

end StoreAccess.Report
