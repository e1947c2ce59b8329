import StoreAccess.Request
import StoreAccess.Store.Contents

/-!
# Connections

A store holds committed contents and lets one handle write at a time. A handle that begins a
write transaction gets a copy of the committed contents to work on; committing publishes the copy
and cancelling drops it. Everyone else reads the committed contents meanwhile.

A `Connection` is a handle with the store behind it. Its operations are actions on both.
-/

namespace StoreAccess

/-- The state behind all handles of a store. -/
structure Shared where
  committed : Contents
  /-- Whether some handle has a write transaction. -/
  writing : Bool
  deriving DecidableEq, Repr

/-- What a handle has of its own. -/
structure Handle where
  principal : Principal
  owner : Thread
  closed : Bool
  /-- The copy that a write transaction works on. -/
  pending : Option Contents
  deriving DecidableEq, Repr

/-- A handle with the store behind it. -/
structure Connection where
  storeId : StoreId
  shared : Shared
  handle : Handle
  deriving DecidableEq, Repr

/-- The handle of somebody who opens a store. -/
def Handle.ofPrincipal (principal : Principal) (owner : Thread) : Handle where
  principal
  owner
  closed := false
  pending := none

namespace Connection

/-! ## Reading -/

/-- What reads through the handle see: its pending copy, or else the committed contents. -/
def visible (connection : Connection) : Contents :=
  connection.handle.pending.getD connection.shared.committed

/-- Whether the store behind the handle contains an object. References of other stores, and of
none, denote no object of it. -/
def containsObject (connection : Connection) (object : ObjectRef) : Bool :=
  object.storeId = some connection.storeId &&
    connection.visible.objects.contains object.id

/-- The store as decisions see it through the handle. Reads never fail, and do not check that the
handle is usable. -/
def view (connection : Connection) : AccessView where
  hasClass className := .ok (connection.visible.hasClass className)
  classNames := .ok connection.visible.classes.keys
  realmGrants := .ok connection.visible.realm
  classGrants className := .ok (connection.visible.classes.get? className)
  objectGrants object := .ok (connection.visible.objectGrants object.id)
  findRole role := .ok (connection.visible.roles.get? role)
  storeId := connection.storeId
  principal := connection.handle.principal
  closed := connection.handle.closed
  owner := connection.handle.owner
  inTransaction := connection.handle.pending.isSome
  containsObject object := .ok (connection.containsObject object)
  listRoles := .ok connection.visible.roles.values

def requireUsable (connection : Connection) (caller : Thread) : Except AccessError Unit :=
  connection.view.requireUsable caller

/-- The object is one of the store behind the handle, as far as the reference says. -/
def requireOwned (connection : Connection) (object : ObjectRef) : Except AccessError Unit :=
  match object.storeId with
  | none => .error .unmanagedObject
  | some owner => if owner = connection.storeId then .ok () else .error .crossStoreReference

/-! ## Transactions -/

/-- The connection without its pending copy, the store free for the next writer. -/
def release (connection : Connection) : Connection where
  storeId := connection.storeId
  shared := { connection.shared with writing := false }
  handle := { connection.handle with pending := none }

/-- Drops the pending copy, if there is one. -/
def discard (connection : Connection) : Connection :=
  if connection.handle.pending.isSome then connection.release else connection

/-- Begins a write transaction on a copy of the committed contents. -/
def begin (caller : Thread) : Action Connection Unit := do
  let connection ← get
  connection.requireUsable caller
  if connection.handle.pending.isSome then throw .alreadyWriting
  if connection.shared.writing then throw .writerElsewhere
  set { connection with
    shared := { connection.shared with writing := true }
    handle := { connection.handle with pending := some connection.shared.committed } }

/-- Publishes the pending copy. -/
def commit (caller : Thread) : Action Connection Unit := do
  let connection ← get
  connection.requireUsable caller
  match connection.handle.pending with
  | none => throw .notInTransaction
  | some contents =>
    set { connection.release with shared := { committed := contents, writing := false } }

/-- Drops the pending copy. -/
def cancel (caller : Thread) : Action Connection Unit := do
  let connection ← get
  connection.requireUsable caller
  if connection.handle.pending.isNone then throw .notInTransaction
  set connection.release

/-- Closes the handle for good and drops its pending copy. Any thread may do so, and closing
again does nothing. -/
def close : Action Connection Unit :=
  modify fun connection =>
    if connection.handle.closed then connection
    else
      let discarded := connection.discard
      { discarded with handle := { discarded.handle with closed := true } }

/-- Makes a change to the pending copy, which keeps what the change did to it even if the change
fails in the end. -/
def write {α : Type} (caller : Thread) (change : Action Contents α) : Action Connection α := do
  let connection ← get
  connection.requireUsable caller
  match connection.handle.pending with
  | none => throw .notInTransaction
  | some contents =>
    let (result, changed) := change.apply contents
    set { connection with handle := { connection.handle with pending := some changed } }
    result

/-! ## Objects and grants -/

def createObject (caller : Thread) (className : String) : Action Connection ObjectRef := do
  let key ← write caller (Contents.createObject className)
  return .managed (← get).storeId className key

def createTyped (caller : Thread) (type : ObjectType) : Action Connection (TypedObject type) := do
  TypedObject.ofRef type (← createObject caller type.className)

def deleteObject (caller : Thread) (object : ObjectRef) : Action Connection Bool := do
  (← get).requireOwned object
  write caller (Contents.deleteObject object.id)

def grantOnStore (caller : Thread) (role : String) (capabilities : CapabilitySet) :
    Action Connection Unit := do
  write caller (Contents.grantOnStore (← Grant.ofName role capabilities))

def grantOnClass (caller : Thread) (className role : String) (capabilities : CapabilitySet) :
    Action Connection Unit := do
  write caller (Contents.grantOnClass className (← Grant.ofName role capabilities))

def grantOnObject (caller : Thread) (object : ObjectRef) (role : String)
    (capabilities : CapabilitySet) : Action Connection Unit := do
  (← get).requireOwned object
  write caller (Contents.grantOnObject object.id (← Grant.ofName role capabilities))

/-! ## Roles -/

def createRole (caller : Thread) (role : String) : Action Connection Role := do
  write caller (Contents.fileRole (← Role.ofName role))

/-- The store as one whose roles a caller administers. -/
def backend (caller : Thread) : RoleBackend Connection where
  view := view
  createRole := createRole caller
  recordPrincipal p := write caller (Contents.recordPrincipal p)
  insertMember role p := write caller (Contents.insertMember role p)
  removeMember role p := write caller (Contents.removeMember role p)

end Connection

end StoreAccess
