import StoreAccess.Proofs.Steps
import StoreAccess.Resolution

/-!
# What a resolution answers

A resolution reads the grants of a scope (`Candidates`), asks of each role whether it includes
the principal (`Includes`), and adds up. `privileges_exact` gives all its answers:

* when everything it needs can be read, the privileges are what the grants to roles with the
  principal give, or what the template gives where no grant speaks of everyone;
* otherwise an error, the one that `Refused` tells. A role that cannot be read counts for the
  whole list, also where the grants before it already allow everything.
-/

namespace StoreAccess.GrantSource

/-! ## Reading the grants of a scope -/

/-- The class has a name and is one of the schema. -/
def InSchema (source : GrantSource) (className : String) : Prop :=
  Text.isBlank className = false ∧ source.hasClass className = .ok true

/-- The list of grants that a resolution at the scope weighs. -/
inductive Candidates (source : GrantSource) : Scope → GrantList → Prop
  | store {realm : RealmGrants} :
      source.realmGrants = .ok realm → Candidates source .store realm.grants
  | ofClass {className : String} {kept : ClassGrants} :
      source.InSchema className → source.classGrants className = .ok (some kept) →
        Candidates source (.ofClass className) kept.grants
  | emptyClass {className : String} :
      source.InSchema className → source.classGrants className = .ok none →
        Candidates source (.ofClass className) .empty
  | object {object : ObjectRef} {grants : GrantList} :
      source.InSchema object.className → source.objectGrants object = .ok grants →
        Candidates source (.object object) grants

/-- Why a class is not accepted in a scope. -/
inductive ClassRefused (source : GrantSource) (className : String) : AccessError → Prop
  | blank : Text.isBlank className = true → ClassRefused source className .blankClassScope
  | unread {error : AccessError} :
      Text.isBlank className = false → source.hasClass className = .error error →
        ClassRefused source className error
  | unknown :
      Text.isBlank className = false → source.hasClass className = .ok false →
        ClassRefused source className (.unknownClassScope className)

/-- Why the grants of a scope are not read. -/
inductive Unread (source : GrantSource) : Scope → AccessError → Prop
  | realm {error : AccessError} : source.realmGrants = .error error → Unread source .store error
  | className {className : String} {error : AccessError} :
      source.ClassRefused className error → Unread source (.ofClass className) error
  | classGrants {className : String} {error : AccessError} :
      source.InSchema className → source.classGrants className = .error error →
        Unread source (.ofClass className) error
  | objectClass {object : ObjectRef} {error : AccessError} :
      source.ClassRefused object.className error → Unread source (.object object) error
  | objectGrants {object : ObjectRef} {error : AccessError} :
      source.InSchema object.className → source.objectGrants object = .error error →
        Unread source (.object object) error

theorem requireClassScope_eq_ok_iff {source : GrantSource} {className : String} :
    source.requireClassScope className = .ok () ↔ source.InSchema className := by
  unfold requireClassScope InSchema
  cases hblank : Text.isBlank className with
  | true => simp
  | false =>
    rcases hclass : source.hasClass className with error | known
    · simp
    · cases known <;> simp

theorem requireClassScope_eq_error_iff {source : GrantSource} {className : String}
    {error : AccessError} :
    source.requireClassScope className = .error error ↔ source.ClassRefused className error := by
  constructor
  · intro h
    unfold requireClassScope at h
    cases hblank : Text.isBlank className with
    | true =>
      simp only [hblank, if_true, throw_eq_error, error_bind, Except.error.injEq] at h
      exact h ▸ .blank hblank
    | false =>
      rcases hclass : source.hasClass className with unread | known
      · simp only [hblank, hclass, Bool.false_eq_true, if_false, pure_eq_ok, error_bind,
          Except.error.injEq] at h
        exact h ▸ .unread hblank hclass
      · cases known with
        | true => simp [hblank, hclass] at h
        | false =>
          simp only [hblank, hclass, Bool.false_eq_true, if_false, pure_eq_ok, ok_bind,
            throw_eq_error, Except.error.injEq] at h
          exact h ▸ .unknown hblank hclass
  · rintro (hblank | ⟨hblank, hclass⟩ | ⟨hblank, hclass⟩)
    · simp [requireClassScope, hblank]
    · simp [requireClassScope, hblank, hclass]
    · simp [requireClassScope, hblank, hclass]

theorem grantsAt_eq_ok_iff {source : GrantSource} {scope : Scope} {l : GrantList} :
    source.grantsAt scope = .ok l ↔ source.Candidates scope l := by
  constructor
  · intro h
    cases scope with
    | store =>
      obtain ⟨realm, hrealm, hl⟩ := bind_eq_ok_iff.1 h
      cases hl
      exact .store hrealm
    | ofClass className =>
      obtain ⟨_, hclass, h⟩ := bind_eq_ok_iff.1 h
      obtain ⟨kept?, hkept, hl⟩ := bind_eq_ok_iff.1 h
      have hclass := requireClassScope_eq_ok_iff.1 hclass
      cases kept? with
      | none =>
        cases hl
        exact .emptyClass hclass hkept
      | some kept =>
        cases hl
        exact .ofClass hclass hkept
    | object object =>
      obtain ⟨_, hclass, hl⟩ := bind_eq_ok_iff.1 h
      exact .object (requireClassScope_eq_ok_iff.1 hclass) hl
  · rintro (hrealm | ⟨hclass, hkept⟩ | ⟨hclass, hkept⟩ | ⟨hclass, hgrants⟩)
    · simp [grantsAt, hrealm]
    · simp [grantsAt, requireClassScope_eq_ok_iff.2 hclass, hkept]
    · simp [grantsAt, requireClassScope_eq_ok_iff.2 hclass, hkept]
    · simp [grantsAt, requireClassScope_eq_ok_iff.2 hclass, hgrants]

theorem grantsAt_eq_error_iff {source : GrantSource} {scope : Scope} {error : AccessError} :
    source.grantsAt scope = .error error ↔ source.Unread scope error := by
  constructor
  · intro h
    cases scope with
    | store =>
      rcases bind_eq_error_iff.1 h with hrealm | ⟨realm, _, hl⟩
      · exact .realm hrealm
      · cases hl
    | ofClass className =>
      rcases bind_eq_error_iff.1 h with hclass | ⟨_, hclass, h⟩
      · exact .className (requireClassScope_eq_error_iff.1 hclass)
      · rcases bind_eq_error_iff.1 h with hkept | ⟨kept?, _, hl⟩
        · exact .classGrants (requireClassScope_eq_ok_iff.1 hclass) hkept
        · cases kept? <;> cases hl
    | object object =>
      rcases bind_eq_error_iff.1 h with hclass | ⟨_, hclass, h⟩
      · exact .objectClass (requireClassScope_eq_error_iff.1 hclass)
      · exact .objectGrants (requireClassScope_eq_ok_iff.1 hclass) h
  · rintro (hrealm | hclass | ⟨hclass, hkept⟩ | hclass | ⟨hclass, hgrants⟩)
    · simp [grantsAt, hrealm]
    · simp [grantsAt, requireClassScope_eq_error_iff.2 hclass]
    · simp [grantsAt, requireClassScope_eq_ok_iff.2 hclass, hkept]
    · simp [grantsAt, requireClassScope_eq_error_iff.2 hclass]
    · simp [grantsAt, requireClassScope_eq_ok_iff.2 hclass, hgrants]

/-! ## Asking the roles -/

/-- The role includes the principal: it is the role everyone, or it exists and has the principal
as a member. -/
def Includes (source : GrantSource) (p : Principal) (role : String) : Prop :=
  role = everyoneName ∨ ∃ found, source.findRole role = .ok (some found) ∧ found.hasMember p = true

/-- The look-up of the role that a resolution makes, if it makes one, gives an answer. -/
def RoleRead (source : GrantSource) (role : String) : Prop :=
  role = everyoneName ∨ ∃ found?, source.findRole role = .ok found?

/-- The first role in a list of grants that cannot be looked up, and why. -/
def RoleUnread (source : GrantSource) (gs : List Grant) (error : AccessError) : Prop :=
  ∃ before g after, gs = before ++ g :: after ∧ (∀ e ∈ before, source.RoleRead e.role) ∧
    g.role ≠ everyoneName ∧ source.findRole g.role = .error error

theorem namesEveryone_iff {role : String} : namesEveryone role = true ↔ role = everyoneName :=
  beq_iff_eq

theorem roleIncludes_eq_ok {source : GrantSource} {role : String} (h : source.RoleRead role)
    (p : Principal) :
    ∃ b, source.roleIncludes p role = .ok b ∧ (b = true ↔ source.Includes p role) := by
  unfold roleIncludes Includes
  by_cases heveryone : role = everyoneName
  · exact ⟨true, by simp [namesEveryone_iff.2 heveryone], by simp [heveryone]⟩
  · have hname : ¬ namesEveryone role = true := fun hc => heveryone (namesEveryone_iff.1 hc)
    obtain ⟨found?, hfound⟩ := h.resolve_left heveryone
    cases found? with
    | none => exact ⟨false, by simp [hname, hfound], by simp [heveryone, hfound]⟩
    | some found =>
      exact ⟨found.hasMember p, by simp [hname, hfound], by simp [heveryone, hfound]⟩

theorem roleIncludes_eq_error_iff {source : GrantSource} {p : Principal} {role : String}
    {error : AccessError} :
    source.roleIncludes p role = .error error ↔
      role ≠ everyoneName ∧ source.findRole role = .error error := by
  unfold roleIncludes
  by_cases heveryone : role = everyoneName
  · simp [namesEveryone_iff, heveryone]
  · have hname : ¬ namesEveryone role = true := fun hc => heveryone (namesEveryone_iff.1 hc)
    rcases hfound : source.findRole role with unread | found?
    · simp [hname, heveryone]
    · cases found? <;> simp [hname, heveryone]

theorem roleRead_or_unread (source : GrantSource) (role : String) :
    source.RoleRead role ∨ role ≠ everyoneName ∧ ∃ error, source.findRole role = .error error := by
  by_cases heveryone : role = everyoneName
  · exact .inl (.inl heveryone)
  · rcases hfound : source.findRole role with error | found?
    · exact .inr ⟨heveryone, error, rfl⟩
    · exact .inl (.inr ⟨found?, hfound⟩)

theorem rolesRead_or_unread (source : GrantSource) (gs : List Grant) :
    (∀ g ∈ gs, source.RoleRead g.role) ∨ ∃ error, source.RoleUnread gs error := by
  induction gs with
  | nil => exact .inl (by simp)
  | cons g gs ih =>
    rcases roleRead_or_unread source g.role with hread | ⟨heveryone, error, hunread⟩
    · rcases ih with hgs | ⟨error, before, e, after, rfl, hbefore, hname, hfound⟩
      · exact .inl (List.forall_mem_cons.2 ⟨hread, hgs⟩)
      · exact .inr ⟨error, g :: before, e, after, rfl, List.forall_mem_cons.2 ⟨hread, hbefore⟩,
          hname, hfound⟩
    · exact .inr ⟨error, [], g, gs, rfl, by simp, heveryone, hunread⟩

/-! ## Adding up -/

/-- The sum over a list the roles of which can be read. The induction carries what was summed up
before the list. -/
theorem addGrants_eq_ok {source : GrantSource} (p : Principal) {gs : List Grant}
    (h : ∀ g ∈ gs, source.RoleRead g.role) (merged : CapabilitySet) :
    ∃ total, source.addGrants p merged gs = .ok total ∧
      ∀ c, total.allows c = true ↔
        merged.allows c = true ∨ ∃ g ∈ gs, g.allows c = true ∧ source.Includes p g.role := by
  induction gs generalizing merged with
  | nil => exact ⟨merged, rfl, by simp⟩
  | cons g gs ih =>
    obtain ⟨hg, hgs⟩ := List.forall_mem_cons.1 h
    obtain ⟨b, hb, hincludes⟩ := roleIncludes_eq_ok hg p
    cases b with
    | true =>
      obtain ⟨total, htotal, hallows⟩ := ih hgs (merged.union g.capabilities)
      refine ⟨total, by simp [addGrants, hb, htotal], fun c => ?_⟩
      have hin : source.Includes p g.role := hincludes.1 rfl
      simp [hallows, hin, Grant.allows, or_assoc]
    | false =>
      obtain ⟨total, htotal, hallows⟩ := ih hgs merged
      refine ⟨total, by simp [addGrants, hb, htotal], fun c => ?_⟩
      have hout : ¬ source.Includes p g.role := fun hc => by simpa using hincludes.2 hc
      simp [hallows, hout]

theorem addGrants_eq_error_iff {source : GrantSource} {p : Principal} {gs : List Grant}
    {merged : CapabilitySet} {error : AccessError} :
    source.addGrants p merged gs = .error error ↔ source.RoleUnread gs error := by
  induction gs generalizing merged with
  | nil => simp [addGrants, RoleUnread]
  | cons g gs ih =>
    rcases roleRead_or_unread source g.role with hread | ⟨heveryone, unread, hunread⟩
    · have hskip : source.RoleUnread (g :: gs) error ↔ source.RoleUnread gs error := by
        constructor
        · rintro ⟨before, e, after, hsplit, hbefore, hname, hfound⟩
          cases before with
          | nil =>
            obtain ⟨rfl, rfl⟩ := List.cons.inj hsplit
            rcases hread with hread | ⟨found?, hread⟩
            · exact absurd hread hname
            · rw [hread] at hfound
              cases hfound
          | cons b before =>
            obtain ⟨rfl, rfl⟩ := List.cons.inj hsplit
            exact ⟨before, e, after, rfl, (List.forall_mem_cons.1 hbefore).2, hname, hfound⟩
        · rintro ⟨before, e, after, rfl, hbefore, hname, hfound⟩
          exact ⟨g :: before, e, after, rfl, List.forall_mem_cons.2 ⟨hread, hbefore⟩, hname, hfound⟩
      obtain ⟨b, hb, -⟩ := roleIncludes_eq_ok hread p
      rw [hskip]
      cases b with
      | true => simpa [addGrants, hb] using ih
      | false => simpa [addGrants, hb] using ih
    · have hb := roleIncludes_eq_error_iff (p := p).2 ⟨heveryone, hunread⟩
      simp only [addGrants, hb, error_bind, Except.error.injEq]
      constructor
      · rintro rfl
        exact ⟨[], g, gs, rfl, by simp, heveryone, hunread⟩
      · rintro ⟨before, e, after, hsplit, hbefore, hname, hfound⟩
        cases before with
        | nil =>
          obtain ⟨rfl, rfl⟩ := List.cons.inj hsplit
          rw [hunread] at hfound
          exact Except.error.inj hfound
        | cons b before =>
          obtain ⟨rfl, rfl⟩ := List.cons.inj hsplit
          rcases (List.forall_mem_cons.1 hbefore).1 with hread | ⟨found?, hread⟩
          · exact absurd hread heveryone
          · rw [hunread] at hread
            cases hread

/-! ## All answers of a resolution -/

/-- Why a resolution fails: the grants of the scope are not read, or a role of theirs is not. -/
inductive Refused (source : GrantSource) (scope : Scope) : AccessError → Prop
  | unread {error : AccessError} : source.Unread scope error → Refused source scope error
  | roleUnread {l : GrantList} {error : AccessError} :
      source.Candidates scope l → source.RoleUnread l.entries error → Refused source scope error

theorem fallback_allows {kind : ScopeKind} {l : GrantList} {c : Capability} :
    ((Policy.fallback? kind l).getD .none).allows c = true ↔
      everyoneName ∉ l.roles ∧ (Policy.template kind).allows c = true := by
  rw [Policy.fallback?_eq]
  by_cases h : everyoneName ∈ l.roles
  · simp [h]
  · simp [h]

theorem privileges_eq_ok {source : GrantSource} {scope : Scope} {l : GrantList}
    (hl : source.Candidates scope l) (hroles : ∀ g ∈ l.entries, source.RoleRead g.role)
    (p : Principal) :
    ∃ v, source.privileges p scope = .ok v ∧
      ∀ c, v.allows c = true ↔
        (∃ g ∈ l.entries, g.allows c = true ∧ source.Includes p g.role) ∨
          everyoneName ∉ l.roles ∧ (Policy.template scope.kind).allows c = true := by
  obtain ⟨total, htotal, hallows⟩ :=
    addGrants_eq_ok p hroles ((Policy.fallback? scope.kind l).getD .none)
  refine ⟨⟨total⟩, by simp [privileges, grantsAt_eq_ok_iff.2 hl, htotal], fun c => ?_⟩
  rw [Privileges.allows, hallows, fallback_allows, or_comm]

theorem privileges_eq_error_iff {source : GrantSource} {p : Principal} {scope : Scope}
    {error : AccessError} :
    source.privileges p scope = .error error ↔ source.Refused scope error := by
  constructor
  · intro h
    rcases bind_eq_error_iff.1 h with h | ⟨l, hl, h⟩
    · exact .unread (grantsAt_eq_error_iff.1 h)
    · rcases bind_eq_error_iff.1 h with h | ⟨total, _, h⟩
      · exact .roleUnread (grantsAt_eq_ok_iff.1 hl) (addGrants_eq_error_iff.1 h)
      · cases h
  · rintro (h | ⟨hl, h⟩)
    · simp [privileges, grantsAt_eq_error_iff.2 h]
    · simp [privileges, grantsAt_eq_ok_iff.2 hl, addGrants_eq_error_iff.2 h]

/-- **Resolution is exact.** Once the grants of the scope and their roles can be read, the
privileges are what the grants to the roles of the principal give, together with the template if
no grant speaks of everyone. A role that cannot be read fails the whole resolution, and so does a
list that cannot be read. There is an error in no other case than those of `Refused`. -/
theorem privileges_exact (source : GrantSource) (p : Principal) (scope : Scope) :
    (∀ l, source.Candidates scope l → (∀ g ∈ l.entries, source.RoleRead g.role) →
      ∃ v, source.privileges p scope = .ok v ∧
        ∀ c, v.allows c = true ↔
          (∃ g ∈ l.entries, g.allows c = true ∧ source.Includes p g.role) ∨
            everyoneName ∉ l.roles ∧ (Policy.template scope.kind).allows c = true) ∧
    (∀ l, source.Candidates scope l → (∃ g ∈ l.entries, ¬ source.RoleRead g.role) →
      ∃ error, source.RoleUnread l.entries error ∧ source.privileges p scope = .error error) ∧
    ((¬ ∃ l, source.Candidates scope l) →
      ∃ error, source.Unread scope error ∧ source.privileges p scope = .error error) ∧
    ∀ error, source.privileges p scope = .error error ↔ source.Refused scope error := by
  refine ⟨fun l hl hroles => privileges_eq_ok hl hroles p, fun l hl hrole => ?_, fun hnone => ?_,
    fun error => privileges_eq_error_iff⟩
  · obtain ⟨g, hg, hunread⟩ := hrole
    rcases rolesRead_or_unread source l.entries with hread | ⟨error, herror⟩
    · exact absurd (hread g hg) hunread
    · exact ⟨error, herror, privileges_eq_error_iff.2 (.roleUnread hl herror)⟩
  · rcases hgrants : source.grantsAt scope with error | l
    · have herror := grantsAt_eq_error_iff.1 hgrants
      exact ⟨error, herror, privileges_eq_error_iff.2 (.unread herror)⟩
    · exact absurd ⟨l, grantsAt_eq_ok_iff.1 hgrants⟩ hnone

/-- A class with two grants to editors around one to a role that does not exist. -/
theorem privileges_exact_repeated_role :
    let p : Principal := ⟨"alice", by decide⟩
    let l : GrantList :=
      ⟨[⟨"editors", .ofList [.create]⟩, ⟨"ghosts", .all⟩, ⟨"editors", .ofList [.read]⟩]⟩
    let source : GrantSource := {
      hasClass := fun className => .ok (className == "Document")
      classNames := .ok ["Document"]
      realmGrants := .ok default
      classGrants := fun className => .ok (some ⟨className, l⟩)
      objectGrants := fun _ => .ok .empty
      findRole := fun role =>
        .ok (if role = "editors" then some ⟨role, SortedSet.empty.insert p⟩ else none) }
    source.Candidates (.ofClass "Document") l ∧ (∀ g ∈ l.entries, source.RoleRead g.role) ∧
      ∃ v, source.privileges p (.ofClass "Document") = .ok v ∧
        ∀ c, v.allows c = true ↔
          (∃ g ∈ l.entries, g.allows c = true ∧ source.Includes p g.role) ∨
            everyoneName ∉ l.roles ∧ (Policy.template .ofClass).allows c = true := by
  intro p l source
  have hclass : source.InSchema "Document" := ⟨by decide, rfl⟩
  have hl : source.Candidates (.ofClass "Document") l := .ofClass hclass rfl
  have hroles : ∀ g ∈ l.entries, source.RoleRead g.role := fun g _ => .inr ⟨_, rfl⟩
  exact ⟨hl, hroles, (privileges_exact source p (.ofClass "Document")).1 l hl hroles⟩

end StoreAccess.GrantSource
