import StoreAccess.Capability
import StoreAccess.Role

/-!
# Grants

A grant gives a role capabilities. A `GrantList` is an ordered list of grants in which granting
to a role that has an entry replaces the capabilities of that entry, and granting to another
role appends. A list that was stored may hold a role more than once; then the first entry is the
one that is looked up and replaced, and revoking takes all of them.

Main statements: `find?_grant` and `find?_revoke`, the look-ups after a change, and
`nodup_grant`, that granting repeats no role.
-/

namespace StoreAccess

structure Grant where
  role : String
  capabilities : CapabilitySet
  deriving DecidableEq, Repr

/-- What a principal may do, as it comes out of a decision. -/
structure Privileges where
  capabilities : CapabilitySet
  deriving DecidableEq, Repr

def Privileges.allows (p : Privileges) (c : Capability) : Bool := p.capabilities.allows c

namespace Grant

/-- A grant to a role by its name, which must not be blank. -/
def ofName (role : String) (capabilities : CapabilitySet) : Except AccessError Grant :=
  return ⟨← requireName role, capabilities⟩

def toRole (role : Role) (capabilities : CapabilitySet) : Grant := ⟨role.name, capabilities⟩

def allows (g : Grant) (c : Capability) : Bool := g.capabilities.allows c

theorem ofName_eq_ok_iff {role : String} {capabilities : CapabilitySet} {g : Grant} :
    ofName role capabilities = .ok g ↔ g = ⟨role, capabilities⟩ ∧ Text.isBlank role = false :=
  requireName_bind_eq_ok_iff

end Grant

/-- Grants in the order in which their roles were first given any. -/
structure GrantList where
  entries : List Grant
  deriving DecidableEq, Repr

namespace GrantList

/-! ## Operations -/

def empty : GrantList := ⟨[]⟩

instance : EmptyCollection GrantList := ⟨empty⟩

instance : Inhabited GrantList := ⟨empty⟩

/-- The first entry of a role. -/
def find? (l : GrantList) (role : String) : Option Grant :=
  l.entries.find? (·.role == role)

/-- Gives the first entry of the role new capabilities, or appends the grant. -/
def place (g : Grant) : List Grant → List Grant
  | [] => [g]
  | e :: es =>
    if e.role = g.role then { e with capabilities := g.capabilities } :: es else e :: place g es

/-- Grants capabilities to a role, in place of those it had. -/
def grant (l : GrantList) (g : Grant) : GrantList := ⟨place g l.entries⟩

/-- Takes the entries of a role away, and tells whether there were any. -/
def revoke (l : GrantList) (role : String) : Bool × GrantList :=
  let rest := l.entries.filter (·.role ≠ role)
  (rest.length ≠ l.entries.length, ⟨rest⟩)

def ofList (grants : List Grant) : GrantList := grants.foldl grant empty

def size (l : GrantList) : Nat := l.entries.length

def isEmpty (l : GrantList) : Bool := l.entries.isEmpty

def roles (l : GrantList) : List String := l.entries.map (·.role)

/-- Whether no role has more than one entry. -/
def Distinct (l : GrantList) : Prop := l.roles.Nodup

instance (l : GrantList) : Decidable l.Distinct := inferInstanceAs (Decidable l.roles.Nodup)

/-! ## Look-ups after a change -/

theorem find?_eq_none_iff {l : GrantList} {role : String} :
    l.find? role = none ↔ role ∉ l.roles := by
  simp [find?, roles]

theorem find?_place (g : Grant) (es : List Grant) (role : String) :
    (place g es).find? (·.role == role) =
      if role = g.role then some g else es.find? (·.role == role) := by
  induction es with
  | nil =>
    by_cases h : role = g.role
    · simp [place, h]
    · simp [place, h, Ne.symm h]
  | cons e es ih =>
    unfold place
    split
    · rename_i he
      by_cases h : role = g.role
      · subst h
        cases e
        simp_all
      · have hg : ¬ g.role = role := Ne.symm h
        simp [he, h, hg]
    · rename_i he
      by_cases hr : e.role = role
      · have : ¬ role = g.role := fun hc => he (hr.trans hc)
        simp [hr, this]
      · simp [hr, ih]

theorem find?_grant (l : GrantList) (g : Grant) (role : String) :
    (l.grant g).find? role = if role = g.role then some g else l.find? role :=
  find?_place g l.entries role

theorem find?_revoke (l : GrantList) (r role : String) :
    (l.revoke r).2.find? role = if role = r then none else l.find? role := by
  simp only [revoke, find?, List.find?_filter]
  by_cases h : role = r
  · subst h
    simp only [if_true, List.find?_eq_none]
    intro e _
    simp
  · simp only [h, if_false]
    congr 1
    funext e
    by_cases he : e.role = role
    · simp [he, h]
    · simp [he]

theorem map_role_place (g : Grant) (es : List Grant) :
    (place g es).map (·.role) =
      if g.role ∈ es.map (·.role) then es.map (·.role) else es.map (·.role) ++ [g.role] := by
  induction es with
  | nil => rfl
  | cons e es ih =>
    unfold place
    by_cases he : e.role = g.role
    · simp [he]
    · rw [if_neg he, List.map_cons, ih]
      by_cases hg : g.role ∈ es.map (·.role)
      · rw [if_pos hg, List.map_cons, if_pos (List.mem_cons_of_mem _ hg)]
      · have : g.role ∉ e.role :: es.map (·.role) := fun h =>
          (List.mem_cons.1 h).elim (fun h => he h.symm) hg
        rw [if_neg hg, List.map_cons, if_neg this, List.cons_append]

theorem roles_grant (l : GrantList) (g : Grant) :
    (l.grant g).roles = if g.role ∈ l.roles then l.roles else l.roles ++ [g.role] :=
  map_role_place g l.entries

theorem nodup_grant {l : GrantList} (h : l.Distinct) (g : Grant) : (l.grant g).Distinct := by
  unfold Distinct at *
  rw [roles_grant]
  split
  · exact h
  · rename_i hg
    refine List.nodup_append.2 ⟨h, by simp, ?_⟩
    intro a ha b hb
    rintro rfl
    simp at hb
    exact hg (hb ▸ ha)

theorem nodup_empty : empty.Distinct := List.nodup_nil

theorem nodup_ofList (grants : List Grant) : (ofList grants).Distinct := by
  have key : ∀ l : GrantList, l.Distinct → (grants.foldl grant l).Distinct := by
    induction grants with
    | nil => exact fun l h => h
    | cons g gs ih => exact fun l h => ih _ (nodup_grant h g)
  exact key empty nodup_empty

theorem place_of_notMem {g : Grant} {es : List Grant} (h : g.role ∉ es.map (·.role)) :
    place g es = es ++ [g] := by
  induction es with
  | nil => rfl
  | cons e es ih =>
    rw [List.map_cons, List.mem_cons, not_or] at h
    rw [place, if_neg (Ne.symm h.1), ih h.2, List.cons_append]

/-- Grants of which no two go to the same role stay as they are. -/
theorem entries_ofList {grants : List Grant} (h : (grants.map (·.role)).Nodup) :
    (ofList grants).entries = grants := by
  -- What was granted before is a list of which the roles are not granted to again.
  have key : ∀ l : GrantList, (l.roles ++ grants.map (·.role)).Nodup →
      (grants.foldl grant l).entries = l.entries ++ grants := by
    clear h
    induction grants with
    | nil => simp
    | cons g gs ih =>
      intro l hl
      have hnew : g.role ∉ l.roles := fun hmem =>
        (List.nodup_append.1 hl).2.2 _ hmem _ List.mem_cons_self rfl
      have hgrant : l.grant g = ⟨l.entries ++ [g]⟩ := by rw [grant, place_of_notMem hnew]
      rw [List.foldl_cons, ih, hgrant, List.append_assoc, List.singleton_append]
      simpa [hgrant, roles] using hl
  exact key empty h

end GrantList

/-! ## Where grants are kept -/

/-- The grants on a whole store. -/
structure RealmGrants where
  grants : GrantList
  deriving DecidableEq, Repr

instance : Inhabited RealmGrants := ⟨⟨.empty⟩⟩

structure ClassGrants where
  className : String
  grants : GrantList
  deriving DecidableEq, Repr

/-- A class without grants, whose name must not be blank. -/
def ClassGrants.ofName (className : String) : Except AccessError ClassGrants :=
  return ⟨← requireName className, .empty⟩

theorem ClassGrants.ofName_eq_ok_iff {className : String} {kept : ClassGrants} :
    ofName className = .ok kept ↔
      kept = ⟨className, .empty⟩ ∧ Text.isBlank className = false :=
  requireName_bind_eq_ok_iff

end StoreAccess
