import StoreAccess.Gate
import StoreAccess.Membership

/-!
# Requests

Everything that can be asked of a store through a handle, as a value, with the replies. A
`Query` changes nothing and is answered from the view; a `RoleChange` is carried out by the
store. Beside the requests that pass the gate and those that administer roles there are direct
ones, which read and change what the store keeps without checking the handle first.
-/

namespace StoreAccess

/-- What can be asked without changing anything. -/
inductive Query where
  /- Through the gate. -/
  | storePrivileges
  | classPrivileges (target : ClassTarget)
  | objectPrivileges (target : ObjectTarget)
  | shownRealm
  | shownClass (target : ClassTarget)
  | shownRoles
  /- Administering roles. -/
  | lookUpRole (role : String)
  | hasMember (role principal : String)
  /- Direct reads. -/
  | privilegesOf (principal : String) (scope : Scope)
  | closed
  | inTransaction
  | usable
  | principal
  | hasClass (className : String)
  | classNames
  | containsObject (object : ObjectRef)
  | realmGrants
  | classGrants (className : String)
  | objectGrants (object : ObjectRef)
  | findRole (role : String)
  | listRoles

inductive RoleChange where
  /- Administering roles. -/
  | addRole (role : String)
  | addMember (role principal : String)
  | dropMember (role principal : String)
  /- Direct changes. -/
  | createRole (role : String)
  | recordPrincipal (principal : String)
  | insertMember (role principal : String)
  | removeMember (role principal : String)

inductive Request where
  | query (query : Query)
  | change (change : RoleChange)

inductive Reply where
  | done
  | flag (value : Bool)
  | name (value : String)
  | names (values : List String)
  | privileges (value : Privileges)
  | grants (value : GrantList)
  | classGrants (value : ClassGrants)
  | keptGrants (value? : Option ClassGrants)
  | role (value : Role)
  | keptRole (value? : Option Role)
  | roles (values : List Role)
  | object (value : ObjectRef)
  deriving DecidableEq, Repr

def AccessView.reply (view : AccessView) (caller : Thread) : Query → Except AccessError Reply
  | .storePrivileges => return .privileges (← view.storePrivileges caller)
  | .classPrivileges target => return .privileges (← view.classPrivileges caller target)
  | .objectPrivileges target => return .privileges (← view.objectPrivileges caller target)
  | .shownRealm => return .grants (← view.shownRealm caller).grants
  | .shownClass target => return .classGrants (← view.shownClass caller target)
  | .shownRoles => return .roles (← view.shownRoles caller)
  | .lookUpRole role => return .role (← view.lookUpRole caller role)
  | .hasMember role principal => return .flag (← view.hasMember caller role principal)
  | .privilegesOf principal scope => return .privileges (← view.privilegesOf principal scope)
  | .closed => return .flag view.closed
  | .inTransaction => return .flag view.inTransaction
  | .usable => do
    view.requireUsable caller
    return .done
  | .principal => return .name view.principal.text
  | .hasClass className => return .flag (← view.hasClass className)
  | .classNames => return .names (← view.classNames)
  | .containsObject object => return .flag (← view.containsObject object)
  | .realmGrants => return .grants (← view.realmGrants).grants
  | .classGrants className => return .keptGrants (← view.classGrants className)
  | .objectGrants object => return .grants (← view.objectGrants object)
  | .findRole role => return .keptRole (← view.findRole role)
  | .listRoles => return .roles (← view.listRoles)

namespace RoleBackend

variable {σ : Type}

def change (backend : RoleBackend σ) (caller : Thread) : RoleChange → Action σ Reply
  | .addRole role => return .role (← backend.addRole caller role)
  | .addMember role principal => do
    backend.addMember caller role principal
    return .done
  | .dropMember role principal => return .flag (← backend.dropMember caller role principal)
  | .createRole role => return .role (← backend.createRole role)
  | .recordPrincipal principal => do
    backend.recordPrincipal (← Action.answer (Principal.parse principal))
    return .done
  | .insertMember role principal => do
    return .flag (← backend.insertMember role (← Action.answer (Principal.parse principal)))
  | .removeMember role principal => do
    return .flag (← backend.removeMember role (← Action.answer (Principal.parse principal)))

def serve (backend : RoleBackend σ) (caller : Thread) : Request → Action σ Reply
  | .query query => backend.ask (·.reply caller query)
  | .change change => backend.change caller change

end RoleBackend

end StoreAccess
