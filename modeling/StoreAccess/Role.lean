import StoreAccess.Principal
import StoreAccess.Sorted.Set

/-!
# Roles

A role has a name and recorded members. One name is special: the role *everyone* includes each
principal, recorded or not. `hasMember` is what counts for access and `isRecorded` is what is
written down; for every other role they agree.
-/

namespace StoreAccess

/-- The name of the role that includes each principal. -/
def everyoneName : String := "everyone"

/-- Whether a name is that of the role that includes each principal. -/
def namesEveryone (role : String) : Bool := role == everyoneName

structure Role where
  name : String
  members : SortedSet Principal
  deriving DecidableEq, Repr

namespace Role

/-- A new role without members, whose name must not be blank. -/
def ofName (name : String) : Except AccessError Role :=
  return ⟨← requireName name, .empty⟩

/-- The role that includes each principal, without recorded members. -/
def everyone : Role := ⟨everyoneName, .empty⟩

instance : Inhabited Role := ⟨everyone⟩

def isEveryone (role : Role) : Bool := namesEveryone role.name

/-- Whether a principal is written down as a member. -/
def isRecorded (role : Role) (p : Principal) : Bool := role.members.contains p

def hasMember (role : Role) (p : Principal) : Bool := role.isEveryone || role.isRecorded p

def memberCount (role : Role) : Nat := role.members.size

/-- Writes a member down, and tells whether it was new. -/
def insertMember (role : Role) (p : Principal) : Bool × Role :=
  (!role.isRecorded p, { role with members := role.members.insert p })

/-- Strikes a member out, and tells whether it was written down. -/
def removeMember (role : Role) (p : Principal) : Bool × Role :=
  (role.isRecorded p, { role with members := role.members.erase p })

theorem ofName_eq_ok_iff {name : String} {role : Role} :
    ofName name = .ok role ↔ role = ⟨name, .empty⟩ ∧ Text.isBlank name = false :=
  requireName_bind_eq_ok_iff

theorem isRecorded_insertMember (role : Role) (p q : Principal) :
    (role.insertMember p).2.isRecorded q = (decide (q = p) || role.isRecorded q) := by
  simp [insertMember, isRecorded, SortedSet.contains_insert]

theorem isRecorded_removeMember (role : Role) (p q : Principal) :
    (role.removeMember p).2.isRecorded q = (!decide (q = p) && role.isRecorded q) := by
  simp [removeMember, isRecorded, SortedSet.contains_erase]

@[simp] theorem name_insertMember (role : Role) (p : Principal) :
    (role.insertMember p).2.name = role.name := rfl

@[simp] theorem name_removeMember (role : Role) (p : Principal) :
    (role.removeMember p).2.name = role.name := rfl

end Role

end StoreAccess
