import StoreAccess.View

/-!
# What a store holds

`Contents` is the whole of what a store holds: its classes with their grants, the grants on the
store, the roles, the principals on record, the objects with their grants, and the key for the
next object. The changes below say what a write transaction may do to it, step by step: what a
change did before it failed stays done.
-/

namespace StoreAccess

structure Contents where
  classes : SortedMap String ClassGrants
  realm : RealmGrants
  roles : SortedMap String Role
  principals : SortedSet Principal
  objects : SortedMap ObjectId GrantList
  nextKey : UInt64
  deriving DecidableEq, Repr

namespace Contents

/-! ## New contents -/

/-- Declares a class, which must have a name and be new. -/
def declareClass (declared : SortedMap String ClassGrants) (className : String) :
    Except AccessError (SortedMap String ClassGrants) := do
  let kept ← ClassGrants.ofName className
  if declared.contains kept.className then throw (.repeatedClass kept.className)
  return declared.insert kept.className kept

/-- The contents of a new store with the given classes, which are declared in order. -/
def ofClasses (classNames : List String) : Except AccessError Contents := do
  let classes ← classNames.foldlM declareClass .empty
  return {
    classes
    realm := default
    roles := SortedMap.empty.insert Role.everyone.name .everyone
    principals := .empty
    objects := .empty
    nextKey := 1 }

/-! ## Reads -/

def hasClass (contents : Contents) (className : String) : Bool :=
  contents.classes.contains className

/-- The grants on an object, none for an object that is not there. -/
def objectGrants (contents : Contents) (id : ObjectId) : GrantList :=
  (contents.objects.get? id).getD .empty

/-! ## Changes -/

/-- Creates an object of a class of the schema, without grants and under the next key. -/
def createObject (className : String) : Action Contents ObjectKey := do
  let contents ← get
  if !contents.hasClass className then throw (.unknownType className)
  let key : ObjectKey := ⟨contents.nextKey⟩
  set { contents with
    objects := contents.objects.insert ⟨className, key⟩ .empty
    nextKey := contents.nextKey + 1 }
  return key

def deleteObject (id : ObjectId) : Action Contents Bool := do
  let contents ← get
  set { contents with objects := contents.objects.erase id }
  return contents.objects.contains id

/-- Creates a role unless there is one of the name. -/
def ensureRole (role : String) : Action Contents Unit := do
  if !(← get).roles.contains role then
    let created ← Role.ofName role
    modify fun contents => { contents with roles := contents.roles.insert role created }
  if !(← get).roles.contains role then throw (.vanishedRole role)

/-- Grants on the store. A role is created when it is first given anything. -/
def grantOnStore (g : Grant) : Action Contents Unit := do
  ensureRole g.role
  modify fun contents => { contents with realm := ⟨contents.realm.grants.grant g⟩ }

/-- Grants on a class of the schema, which is looked up again once the role is there. -/
def grantOnClass (className : String) (g : Grant) : Action Contents Unit := do
  if !(← get).hasClass className then throw (.unknownType className)
  ensureRole g.role
  let contents ← get
  match contents.classes.get? className with
  | none => throw (.unknownType className)
  | some kept =>
    set { contents with
      classes := contents.classes.insert className { kept with grants := kept.grants.grant g } }

/-- Grants on an object that is there, which is looked up again once the role is there. -/
def grantOnObject (id : ObjectId) (g : Grant) : Action Contents Unit := do
  if !(← get).objects.contains id then throw .unmanagedObject
  ensureRole g.role
  let contents ← get
  match contents.objects.get? id with
  | none => throw .unmanagedObject
  | some grants => set { contents with objects := contents.objects.insert id (grants.grant g) }

/-- Files a new role, of which there must be none of the name. -/
def fileRole (role : Role) : Action Contents Role := do
  let contents ← get
  if contents.roles.contains role.name then throw (.existingRole role.name)
  set { contents with roles := contents.roles.insert role.name role }
  return role

def recordPrincipal (p : Principal) : Action Contents Unit :=
  modify fun contents => { contents with principals := contents.principals.insert p }

/-- Changes the members of a role, which must exist. -/
def changeRole (role : String) (change : Role → Bool × Role) : Action Contents Bool := do
  let contents ← get
  match contents.roles.get? role with
  | none => throw (.missingRole role)
  | some found =>
    let (answer, changed) := change found
    set { contents with roles := contents.roles.insert role changed }
    return answer

/-- Adds a member to a role, and tells whether it was new. -/
def insertMember (role : String) (p : Principal) : Action Contents Bool :=
  changeRole role (·.insertMember p)

/-- Takes a member out of a role, and tells whether it was one. -/
def removeMember (role : String) (p : Principal) : Action Contents Bool :=
  changeRole role (·.removeMember p)

end Contents

end StoreAccess
