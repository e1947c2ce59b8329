import StoreAccess.Store.Connection

/-!
# Stores

A `Store` is the shared state with all live handles. `Call` is everything that can be done
through a handle, `Event` everything that can happen to a store, and `Store.run` lets events
happen one after the other.
-/

namespace StoreAccess

/-- What can be done through a handle. -/
inductive Call where
  | begin
  | commit
  | cancel
  | close
  | createObject (className : String)
  | createTyped (type : ObjectType)
  | deleteObject (object : ObjectRef)
  | grantOnStore (role : String) (capabilities : CapabilitySet)
  | grantOnClass (className role : String) (capabilities : CapabilitySet)
  | grantOnObject (object : ObjectRef) (role : String) (capabilities : CapabilitySet)
  | request (request : Request)

def Connection.perform (caller : Thread) : Call → Action Connection Reply
  | .begin => do
    begin caller
    return .done
  | .commit => do
    commit caller
    return .done
  | .cancel => do
    cancel caller
    return .done
  | .close => do
    close
    return .done
  | .createObject className => return .object (← createObject caller className)
  | .createTyped type => return .object (← createTyped caller type).object
  | .deleteObject object => return .flag (← deleteObject caller object)
  | .grantOnStore role capabilities => do
    grantOnStore caller role capabilities
    return .done
  | .grantOnClass className role capabilities => do
    grantOnClass caller className role capabilities
    return .done
  | .grantOnObject object role capabilities => do
    grantOnObject caller object role capabilities
    return .done
  | .request request => (backend caller).serve caller request

/-- The number of a handle among those opened on a store. -/
structure HandleId where
  number : Nat
  deriving DecidableEq, Repr

namespace HandleId

open Std

instance : Ord HandleId := ⟨compareOn number⟩

instance : TransOrd HandleId := inferInstanceAs (TransCmp (compareOn number))

instance : LawfulEqOrd HandleId where
  eq_of_compare {a b} h := by
    have h : compare a.number b.number = .eq := h
    have := LawfulEqCmp.eq_of_compare h
    cases a
    cases b
    simp_all

end HandleId

/-- A store with its live handles. -/
structure Store where
  id : StoreId
  shared : Shared
  handles : SortedMap HandleId Handle
  nextHandle : Nat
  deriving DecidableEq, Repr

/-- What can happen to a store. -/
inductive Event where
  | openHandle (caller : Thread) (principal : String)
  | call (handle : HandleId) (caller : Thread) (call : Call)
  | dropHandle (handle : HandleId)

/-- What comes of it. -/
inductive Outcome where
  | opened (result : Except AccessError HandleId)
  | called (result : Except AccessError Reply)
  | dropped
  | noHandle

namespace Store

def ofClasses (id : StoreId) (classNames : List String) : Except AccessError Store := do
  let contents ← Contents.ofClasses classNames
  return {
    id
    shared := { committed := contents, writing := false }
    handles := .empty
    nextHandle := 0 }

/-- The connection of a live handle. -/
def connection? (store : Store) (handle : HandleId) : Option Connection :=
  (store.handles.get? handle).map fun found => ⟨store.id, store.shared, found⟩

/-- The store after a connection of one of its handles changed. -/
def update (store : Store) (handle : HandleId) (connection : Connection) : Store :=
  { store with
    shared := connection.shared
    handles := store.handles.insert handle connection.handle }

/-- Opens a handle for a principal, owned by the calling thread. -/
def openHandle (caller : Thread) (principal : String) : Change Store HandleId := do
  let store ← get
  let p ← Principal.parse principal
  let handle : HandleId := ⟨store.nextHandle⟩
  set { store with
    handles := store.handles.insert handle (.ofPrincipal p caller)
    nextHandle := store.nextHandle + 1 }
  return handle

def call? (store : Store) (handle : HandleId) (caller : Thread) (call : Call) :
    Option (Except AccessError Reply × Store) :=
  (store.connection? handle).map fun connection =>
    let (result, changed) := (Connection.perform caller call).apply connection
    (result, store.update handle changed)

/-- Gives a handle up, and with it its pending copy. -/
def dropHandle (store : Store) (handle : HandleId) : Store :=
  match store.connection? handle with
  | none => store
  | some connection =>
    { store with
      shared := connection.discard.shared
      handles := store.handles.erase handle }

def step (store : Store) : Event → Outcome × Store
  | .openHandle caller principal =>
    let (result, store') := (Action.ofChange (openHandle caller principal)).apply store
    (.opened result, store')
  | .call handle caller call =>
    match store.call? handle caller call with
    | none => (.noHandle, store)
    | some (result, store') => (.called result, store')
  | .dropHandle handle =>
    if store.handles.contains handle then (.dropped, store.dropHandle handle)
    else (.noHandle, store)

def run (store : Store) : List Event → List Outcome × Store
  | [] => ([], store)
  | event :: events =>
    let (outcome, store') := store.step event
    let (outcomes, last) := store'.run events
    (outcome :: outcomes, last)

end Store

end StoreAccess
