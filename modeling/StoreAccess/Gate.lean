import StoreAccess.Resolution

/-!
# The gate

Requests for the caller's own access pass a gate. It lets a request through to the resolution
only if the handle is usable and the class or object asked about is one of the store, and refuses
it for the first reason that applies. Inspecting grants passes the same gate and shows the
unwritten entry for everyone among the written ones.

A class or object may be left open by the caller; classes and objects may also be given through
an object type.
-/

namespace StoreAccess

inductive ClassTarget where
  | named (className? : Option String)
  | ofType (type : ObjectType)

def ClassTarget.className? : ClassTarget → Option String
  | named className? => className?
  | ofType type => some type.className

inductive ObjectTarget where
  | ref (object? : Option ObjectRef)
  | typed (type : ObjectType) (object : TypedObject type)

def ObjectTarget.object? : ObjectTarget → Option ObjectRef
  | ref object? => object?
  | typed _ object => some object.object

namespace AccessView

/-! ## Checks -/

/-- The name of a class of the schema. -/
def requireClass (view : AccessView) (className? : Option String) :
    Except AccessError String := do
  match className?.filter (!Text.isBlank ·) with
  | none => throw .missingClassName
  | some className =>
    if ← view.hasClass className then return className else throw (.unknownType className)

/-- A reference to an object of the store. -/
def requireObject (view : AccessView) (object? : Option ObjectRef) :
    Except AccessError ObjectRef := do
  match object? with
  | none => throw .missingObject
  | some object =>
    let _ ← view.requireClass (some object.className)
    match object.storeId with
    | none => throw .unmanagedObject
    | some owner =>
      if owner ≠ view.storeId then throw .crossStoreReference
      if ← view.containsObject object then return object else throw .unmanagedObject

/-! ## Requests -/

/-- What the principal of the handle may do with the store. -/
def storePrivileges (view : AccessView) (caller : Thread) : Except AccessError Privileges := do
  view.requireUsable caller
  view.privileges view.principal .store

def classPrivileges (view : AccessView) (caller : Thread) (target : ClassTarget) :
    Except AccessError Privileges := do
  view.requireUsable caller
  let className ← view.requireClass target.className?
  view.privileges view.principal (.ofClass className)

def objectPrivileges (view : AccessView) (caller : Thread) (target : ObjectTarget) :
    Except AccessError Privileges := do
  view.requireUsable caller
  let object ← view.requireObject target.object?
  view.privileges view.principal (.object object)

def shownRealm (view : AccessView) (caller : Thread) : Except AccessError RealmGrants := do
  view.requireUsable caller
  let realm ← view.realmGrants
  return ⟨Policy.shown .store realm.grants⟩

def shownClass (view : AccessView) (caller : Thread) (target : ClassTarget) :
    Except AccessError ClassGrants := do
  view.requireUsable caller
  let className ← view.requireClass target.className?
  let kept ← match ← view.classGrants className with
    | some kept => pure kept
    | none => ClassGrants.ofName className
  return { kept with grants := Policy.shown .ofClass kept.grants }

def shownRoles (view : AccessView) (caller : Thread) : Except AccessError (List Role) := do
  view.requireUsable caller
  view.listRoles

end AccessView

end StoreAccess
