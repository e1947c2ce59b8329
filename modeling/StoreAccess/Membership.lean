import StoreAccess.View

/-!
# Administering roles

Roles are read through a usable handle and changed in a write transaction. A change of members
first checks the handle, the identifier and the role, and touches the store only after that; a
principal is put on record before it becomes a member.
-/

namespace StoreAccess

namespace AccessView

/-- The role of a name, which must exist. -/
def requireRole (view : AccessView) (role : String) : Except AccessError Role := do
  match ← view.findRole role with
  | some found => return found
  | none => throw (.missingRole role)

def lookUpRole (view : AccessView) (caller : Thread) (role : String) :
    Except AccessError Role := do
  view.requireUsable caller
  view.requireRole role

def hasMember (view : AccessView) (caller : Thread) (role principal : String) :
    Except AccessError Bool := do
  view.requireUsable caller
  let p ← Principal.parse principal
  return (← view.requireRole role).hasMember p

/-- What a change of members needs before it may begin: the principal of the change. -/
def requireMemberChange (view : AccessView) (caller : Thread) (role principal : String) :
    Except AccessError Principal := do
  view.requireWriting caller
  let p ← Principal.parse principal
  let _ ← view.requireRole role
  return p

end AccessView

namespace RoleBackend

variable {σ : Type}

/-- Asks the store, as it is now, through the handle. -/
def ask {α : Type} (backend : RoleBackend σ) (question : AccessView → Except AccessError α) :
    Action σ α := do
  Action.answer (question (backend.view (← get)))

def addRole (backend : RoleBackend σ) (caller : Thread) (role : String) : Action σ Role := do
  backend.ask (·.requireWriting caller)
  backend.createRole role

def addMember (backend : RoleBackend σ) (caller : Thread) (role principal : String) :
    Action σ Unit := do
  let p ← backend.ask (·.requireMemberChange caller role principal)
  backend.recordPrincipal p
  let _ ← backend.insertMember role p

def dropMember (backend : RoleBackend σ) (caller : Thread) (role principal : String) :
    Action σ Bool := do
  let p ← backend.ask (·.requireMemberChange caller role principal)
  backend.removeMember role p

end RoleBackend

end StoreAccess
