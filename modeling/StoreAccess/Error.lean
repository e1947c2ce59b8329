import StoreAccess.Text.Blank
import StoreAccess.Text.Escape

/-!
# Refused requests

Every request that is refused says why with an `AccessError`. The kind tells the caller what to
mend; kinds that need it carry a detail. `message` is the text shown to people, `inspect` the
text that shows kind and detail to developers. The details this library writes are collected
below, one definition for each cause.
-/

namespace StoreAccess

/-- Why a request was refused. -/
inductive AccessError where
  | storeClosed
  | wrongContext
  | invalidArgument (detail : String)
  | unknownType (className : String)
  | unmanagedObject
  | crossStoreReference
  | notInTransaction
  | invalidScope (detail : String)
  | invalidPrincipal (detail : String)
  | notFound (detail : String)
  | conflict (detail : String)
  | internal (detail : String)
  deriving DecidableEq, Repr

namespace AccessError

def kind : AccessError → String
  | storeClosed => "StoreClosed"
  | wrongContext => "WrongContext"
  | invalidArgument _ => "InvalidArgument"
  | unknownType _ => "UnknownType"
  | unmanagedObject => "UnmanagedObject"
  | crossStoreReference => "CrossStoreReference"
  | notInTransaction => "NotInTransaction"
  | invalidScope _ => "InvalidScope"
  | invalidPrincipal _ => "InvalidPrincipal"
  | notFound _ => "NotFound"
  | conflict _ => "Conflict"
  | internal _ => "Internal"

/-- The detail, for the kinds that carry one. -/
def detail? : AccessError → Option String
  | invalidArgument detail | unknownType detail | invalidScope detail | invalidPrincipal detail
  | notFound detail | conflict detail | internal detail => some detail
  | storeClosed | wrongContext | unmanagedObject | crossStoreReference | notInTransaction => none

def message : AccessError → String
  | storeClosed => "store closed: this store handle has been closed"
  | wrongContext => "wrong context: store handle accessed from a thread that did not open it"
  | invalidArgument detail => s!"invalid argument: {detail}"
  | unknownType className => s!"unknown type: '{className}' is not part of the schema"
  | unmanagedObject => "unmanaged object: only managed objects carry permissions"
  | crossStoreReference => "cross-store reference: object belongs to another store"
  | notInTransaction => "not in transaction: changes require an active write transaction"
  | invalidScope detail => s!"invalid scope: {detail}"
  | invalidPrincipal detail => s!"invalid principal: {detail}"
  | notFound detail => s!"not found: {detail}"
  | conflict detail => s!"conflict: {detail}"
  | internal detail => s!"internal error: {detail}"

/-- The kind, and the quoted detail in parentheses if there is one. -/
def inspect (error : AccessError) : String :=
  match error.detail? with
  | none => error.kind
  | some detail => error.kind ++ "(" ++ Text.quote detail ++ ")"

/-! ## Causes -/

/-- A name was expected where the text is blank. -/
def blankName : AccessError :=
  .invalidArgument "value must not be empty or whitespace"

def unknownCapability (value : String) : AccessError :=
  .invalidArgument s!"unknown capability value '{value}'"

def missingClassName : AccessError :=
  .invalidArgument "a class name is required"

def missingObject : AccessError :=
  .invalidArgument "an object reference is required"

/-- A reference is viewed as an object of another class. -/
def classMismatch (actual expected : String) : AccessError :=
  .invalidArgument s!"object of class '{actual}' cannot be viewed as '{expected}'"

def blankClassScope : AccessError :=
  .invalidScope "class scope requires a class name"

def unknownClassScope (className : String) : AccessError :=
  .invalidScope s!"class '{className}' is not part of the schema"

def missingRole (role : String) : AccessError :=
  .notFound s!"role '{role}' does not exist"

def existingRole (role : String) : AccessError :=
  .conflict s!"role '{role}' already exists"

/-- A role is gone although it was just there. -/
def vanishedRole (role : String) : AccessError :=
  .internal s!"role '{role}' vanished"

def repeatedClass (className : String) : AccessError :=
  .conflict s!"class '{className}' is declared twice"

/-- A handle that has a write transaction begins another. -/
def alreadyWriting : AccessError :=
  .conflict "a write transaction is already active on this handle"

/-- A handle begins a write transaction while another handle has one. -/
def writerElsewhere : AccessError :=
  .conflict "another handle holds the write transaction"

end AccessError

/-- A name that is not blank. The text is kept as it is, white space at its ends included. -/
def requireName (text : String) : Except AccessError String :=
  if Text.isBlank text then .error .blankName else .ok text

theorem requireName_of_blank {text : String} (h : Text.isBlank text = true) :
    requireName text = .error .blankName :=
  if_pos h

theorem requireName_eq_ok_iff {text name : String} :
    requireName text = .ok name ↔ name = text ∧ Text.isBlank text = false := by
  cases h : Text.isBlank text with
  | true => simp [requireName_of_blank h]
  | false => simp [requireName, h, eq_comm]

/-- What is made from a name is made just if the name is not blank. -/
theorem requireName_bind_eq_ok_iff {α : Type} {make : String → α} {text : String} {a : α} :
    (requireName text >>= fun name => pure (make name)) = .ok a ↔
      a = make text ∧ Text.isBlank text = false := by
  constructor
  · intro h
    cases hname : requireName text with
    | error error =>
      rw [hname] at h
      cases h
    | ok name =>
      obtain ⟨rfl, hblank⟩ := requireName_eq_ok_iff.1 hname
      rw [hname] at h
      cases h
      exact ⟨rfl, hblank⟩
  · rintro ⟨rfl, hblank⟩
    rw [requireName_eq_ok_iff.2 ⟨rfl, hblank⟩]
    rfl

end StoreAccess
