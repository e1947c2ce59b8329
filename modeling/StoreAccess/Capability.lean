import StoreAccess.Error

/-!
# Capabilities

A capability is one thing a principal may do, and a `CapabilitySet` has a flag for each. A set
is known by what it allows: `CapabilitySet.ext_allows`. The lemmas named `allows_…` say what
each operation allows.
-/

namespace StoreAccess

/-- One thing a principal may do. -/
inductive Capability where
  | create
  | read
  | update
  | delete
  | query
  | setPermissions
  | modifySchema
  deriving DecidableEq, Repr

namespace Capability

/-- All capabilities in their order. -/
def all : List Capability :=
  [create, read, update, delete, query, setPermissions, modifySchema]

/-- The name a capability is stored under. -/
def name : Capability → String
  | create => "create"
  | read => "read"
  | update => "update"
  | delete => "delete"
  | query => "query"
  | setPermissions => "set_permissions"
  | modifySchema => "modify_schema"

/-- The place of a capability in the order, from zero. -/
def position : Capability → Nat
  | create => 0
  | read => 1
  | update => 2
  | delete => 3
  | query => 4
  | setPermissions => 5
  | modifySchema => 6

instance : LT Capability := ⟨fun a b => a.position < b.position⟩

instance (a b : Capability) : Decidable (a < b) := inferInstanceAs (Decidable (a.position < b.position))

def ofName? (name : String) : Option Capability :=
  all.find? (·.name == name)

def parse (value : String) : Except AccessError Capability :=
  match ofName? value with
  | some capability => .ok capability
  | none => .error (.unknownCapability value)

theorem getElem?_position_all (c : Capability) : all[c.position]? = some c := by cases c <;> rfl

theorem mem_all (c : Capability) : c ∈ all := List.mem_of_getElem? (getElem?_position_all c)

theorem ofName?_name (c : Capability) : ofName? c.name = some c := by cases c <;> rfl

theorem ofName?_eq_some_iff {name : String} {c : Capability} :
    ofName? name = some c ↔ name = c.name := by
  constructor
  · intro h
    have := List.find?_some h
    simpa using (eq_of_beq this).symm
  · rintro rfl
    exact ofName?_name c

theorem parse_eq_ok_iff {value : String} {c : Capability} :
    parse value = .ok c ↔ value = c.name := by
  rw [← ofName?_eq_some_iff, parse]
  cases ofName? value <;> simp

end Capability

/-- A flag for each capability. -/
structure CapabilitySet where
  create : Bool
  read : Bool
  update : Bool
  delete : Bool
  query : Bool
  setPermissions : Bool
  modifySchema : Bool
  deriving DecidableEq, Repr

namespace CapabilitySet

def none : CapabilitySet := ⟨false, false, false, false, false, false, false⟩

def all : CapabilitySet := ⟨true, true, true, true, true, true, true⟩

instance : Inhabited CapabilitySet := ⟨none⟩

def allows (s : CapabilitySet) : Capability → Bool
  | .create => s.create
  | .read => s.read
  | .update => s.update
  | .delete => s.delete
  | .query => s.query
  | .setPermissions => s.setPermissions
  | .modifySchema => s.modifySchema

/-- The set with the flag of one capability set as told. -/
def assign (s : CapabilitySet) (value : Bool) : Capability → CapabilitySet
  | .create => { s with create := value }
  | .read => { s with read := value }
  | .update => { s with update := value }
  | .delete => { s with delete := value }
  | .query => { s with query := value }
  | .setPermissions => { s with setPermissions := value }
  | .modifySchema => { s with modifySchema := value }

def raise (s : CapabilitySet) (c : Capability) : CapabilitySet := s.assign true c

def clear (s : CapabilitySet) (c : Capability) : CapabilitySet := s.assign false c

def union (s t : CapabilitySet) : CapabilitySet where
  create := s.create || t.create
  read := s.read || t.read
  update := s.update || t.update
  delete := s.delete || t.delete
  query := s.query || t.query
  setPermissions := s.setPermissions || t.setPermissions
  modifySchema := s.modifySchema || t.modifySchema

def ofList (capabilities : List Capability) : CapabilitySet := capabilities.foldl raise none

/-- The raised capabilities in their order. -/
def toList (s : CapabilitySet) : List Capability := Capability.all.filter (s.allows ·)

/-- The flags in the order of the capabilities. -/
def flags (s : CapabilitySet) : List Bool :=
  [s.create, s.read, s.update, s.delete, s.query, s.setPermissions, s.modifySchema]

/-- Reads names of capabilities from the left, up to the first that is none. -/
def parse (names : List String) : Except AccessError CapabilitySet :=
  return ofList (← names.mapM Capability.parse)

/-! ## What the operations allow -/

@[simp] theorem allows_none (c : Capability) : none.allows c = false := by cases c <;> rfl

@[simp] theorem allows_all (c : Capability) : all.allows c = true := by cases c <;> rfl

theorem allows_assign (s : CapabilitySet) (value : Bool) (c d : Capability) :
    (s.assign value c).allows d = if d = c then value else s.allows d := by
  cases c <;> cases d <;> rfl

@[simp] theorem allows_raise (s : CapabilitySet) (c d : Capability) :
    (s.raise c).allows d = (decide (d = c) || s.allows d) := by
  by_cases h : d = c <;> simp [raise, allows_assign, h]

@[simp] theorem allows_clear (s : CapabilitySet) (c d : Capability) :
    (s.clear c).allows d = (!decide (d = c) && s.allows d) := by
  by_cases h : d = c <;> simp [clear, allows_assign, h]

@[simp] theorem allows_union (s t : CapabilitySet) (c : Capability) :
    (s.union t).allows c = (s.allows c || t.allows c) := by
  cases c <;> rfl

/-- Sets that allow the same are equal. -/
theorem ext_allows {s t : CapabilitySet} (h : ∀ c, s.allows c = t.allows c) : s = t := by
  have h₁ := h .create
  have h₂ := h .read
  have h₃ := h .update
  have h₄ := h .delete
  have h₅ := h .query
  have h₆ := h .setPermissions
  have h₇ := h .modifySchema
  cases s
  cases t
  simp_all [allows]

theorem allows_ofList (capabilities : List Capability) (c : Capability) :
    (ofList capabilities).allows c = decide (c ∈ capabilities) := by
  have key : ∀ s : CapabilitySet,
      (capabilities.foldl raise s).allows c = (s.allows c || decide (c ∈ capabilities)) := by
    induction capabilities with
    | nil => simp
    | cons d ds ih =>
      intro s
      rw [List.foldl_cons, ih]
      by_cases hd : c = d <;> simp [hd]
  simp [ofList, key]

theorem mem_toList_iff {s : CapabilitySet} {c : Capability} :
    c ∈ s.toList ↔ s.allows c = true := by
  simp [toList, Capability.mem_all]

end CapabilitySet

end StoreAccess
