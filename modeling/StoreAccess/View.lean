import StoreAccess.Policy

/-!
# What access decisions read and change

Decisions about access do not depend on how a store keeps its data. They read a `GrantSource`,
the answers of which may fail; requests that come in through a handle also read an `AccessView`,
which knows the handle; and administering roles changes a `RoleBackend`.
-/

namespace StoreAccess

/-- The thread of execution that a request comes from. -/
structure Thread where
  number : Nat
  deriving DecidableEq, Repr

/-- The schema and the grants of a store, as a decision reads them. -/
structure GrantSource where
  hasClass : String → Except AccessError Bool
  classNames : Except AccessError (List String)
  realmGrants : Except AccessError RealmGrants
  /-- The grants of a class, if any are kept for it. -/
  classGrants : String → Except AccessError (Option ClassGrants)
  objectGrants : ObjectRef → Except AccessError GrantList
  findRole : String → Except AccessError (Option Role)

/-- A store seen through one of its handles. -/
structure AccessView extends GrantSource where
  storeId : StoreId
  /-- Who opened the handle. -/
  principal : Principal
  closed : Bool
  /-- The thread that opened the handle. -/
  owner : Thread
  inTransaction : Bool
  containsObject : ObjectRef → Except AccessError Bool
  listRoles : Except AccessError (List Role)

namespace AccessView

/-- A handle serves the thread that opened it, until it is closed. -/
def requireUsable (view : AccessView) (caller : Thread) : Except AccessError Unit :=
  if view.closed then .error .storeClosed
  else if caller ≠ view.owner then .error .wrongContext
  else .ok ()

/-- Changes need a usable handle with a write transaction. -/
def requireWriting (view : AccessView) (caller : Thread) : Except AccessError Unit := do
  view.requireUsable caller
  if view.inTransaction then return else throw .notInTransaction

theorem requireUsable_eq_ok_iff {view : AccessView} {caller : Thread} :
    view.requireUsable caller = .ok () ↔ view.closed = false ∧ caller = view.owner := by
  unfold requireUsable
  split
  · simp_all
  · split <;> simp_all

end AccessView

/-! ## Changes -/

/-- A step that reads and changes a state and may fail. What it changed before it failed stays
changed. -/
abbrev Action (σ α : Type) := ExceptT AccessError (StateM σ) α

/-- A step that changes a state or fails, but not both. -/
abbrev Change (σ α : Type) := StateT σ (Except AccessError) α

namespace Action

variable {σ α : Type}

def answer (result : Except AccessError α) : Action σ α := ExceptT.mk (pure result)

/-- A change as a step: when it fails, the state is as before. -/
def ofChange (change : Change σ α) : Action σ α := ExceptT.mk fun state =>
  match change state with
  | .ok (value, state') => (.ok value, state')
  | .error error => (.error error, state)

def apply (action : Action σ α) (state : σ) : Except AccessError α × σ := action.run.run state

theorem apply_ofChange (change : Change σ α) (state : σ) :
    (ofChange change).apply state =
      match change state with
      | .ok (value, state') => (.ok value, state')
      | .error error => (.error error, state) := rfl

theorem apply_bind {β : Type} (action : Action σ α) (next : α → Action σ β) (state : σ) :
    (action >>= next).apply state =
      match action.apply state with
      | (.ok value, state') => (next value).apply state'
      | (.error error, state') => (.error error, state') := by
  simp only [apply, ExceptT.run_bind, StateT.run_bind]
  rcases action.run.run state with ⟨result, state'⟩
  cases result <;> rfl

end Action

/-- A store whose roles can be administered, with `σ` as its state. -/
structure RoleBackend (σ : Type) where
  view : σ → AccessView
  createRole : String → Action σ Role
  recordPrincipal : Principal → Action σ Unit
  /-- Adds a member to a role, and tells whether it was new. -/
  insertMember : String → Principal → Action σ Bool
  /-- Takes a member out of a role, and tells whether it was one. -/
  removeMember : String → Principal → Action σ Bool

end StoreAccess
