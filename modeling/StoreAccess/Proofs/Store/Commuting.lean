import Mathlib.Data.List.Nodup
import StoreAccess.Proofs.Granting
import StoreAccess.Proofs.Store.Grants
import StoreAccess.Proofs.Store.Integrity
import StoreAccess.Proofs.Store.Members
import StoreAccess.Proofs.Store.Serial

/-!
# Grants commute

A grant replaces the entry of its role in one list, or adds one at the end, and files the role if
there was none of the name. Grants to different roles, and grants in different places, do not come
in each other's way: made in another order they all succeed again, and what the lists hold is the
same. Only the order of the entries differs, and no resolution depends on it.

Main statement: `independent_grants_commute`.
-/

namespace StoreAccess

/-! ## Lists of grants in another order -/

namespace GrantList

variable {l l' : GrantList} {g : Grant} {role : String}

/-- The lists have the same entries, and find the same for every role. -/
structure SameEntries (l l' : GrantList) : Prop where
  perm : l'.entries.Perm l.entries
  find? : ∀ role, l'.find? role = l.find? role

/-- The list after grants that are made one after the other. -/
def grantAll (l : GrantList) (gs : List Grant) : GrantList := gs.foldl grant l

theorem sameEntries_of_find? (h : l.Distinct) (h' : l'.Distinct)
    (hfind : ∀ role, l'.find? role = l.find? role) : l.SameEntries l' := by
  have hentries : l.entries.Nodup := .of_map _ h
  have hentries' : l'.entries.Nodup := .of_map _ h'
  refine ⟨(List.perm_ext_iff_of_nodup hentries' hentries).2 fun g => ?_, hfind⟩
  rw [h'.mem_entries_iff, h.mem_entries_iff, hfind]

theorem SameEntries.roles_perm (h : l.SameEntries l') : l'.roles.Perm l.roles := h.perm.map _

theorem distinct_grantAll (h : l.Distinct) (gs : List Grant) : (l.grantAll gs).Distinct := by
  unfold grantAll
  induction gs generalizing l with
  | nil => exact h
  | cons g gs ih => exact ih (nodup_grant h g)

/-- What is found for a role depends on the grants to the role alone. -/
theorem find?_grantAll (gs : List Grant) (role : String) (hfind : l'.find? role = l.find? role) :
    (l'.grantAll gs).find? role = (l.grantAll (gs.filter (·.role = role))).find? role := by
  unfold grantAll
  induction gs generalizing l l' with
  | nil => exact hfind
  | cons g gs ih =>
    rw [List.filter_cons, List.foldl_cons]
    by_cases hrole : g.role = role
    · rw [if_pos (decide_eq_true hrole), List.foldl_cons]
      exact ih (by rw [find?_grant, find?_grant, hfind])
    · rw [if_neg (by simpa using hrole)]
      exact ih (by rw [find?_grant, if_neg (Ne.symm hrole), hfind])

/-- Grants made in another order, but to each role in the same, leave the same entries. -/
theorem sameEntries_grantAll (h : l.Distinct) {gs gs' : List Grant}
    (horder : ∀ role, gs'.filter (·.role = role) = gs.filter (·.role = role)) :
    (l.grantAll gs).SameEntries (l.grantAll gs') := by
  refine sameEntries_of_find? (distinct_grantAll h gs) (distinct_grantAll h gs') fun role => ?_
  rw [find?_grantAll gs' role rfl, find?_grantAll gs role rfl, horder]

end GrantList

/-- Sources that have the same entries at a scope, in whatever order, and the same roles resolve
alike there. -/
theorem GrantSource.privileges_eq_of_sameEntries {source source' : GrantSource} {scope : Scope}
    {l l' : GrantList} (hl : source.Candidates scope l) (hl' : source'.Candidates scope l')
    (hsame : l.SameEntries l') (hroles : source'.findRole = source.findRole)
    (hread : ∀ role, source.RoleRead role) (p : Principal) :
    source'.privileges p scope = source.privileges p scope := by
  have hread' : ∀ role, source'.RoleRead role := fun role => by
    rw [RoleRead, hroles]
    exact hread role
  have hincludes : ∀ role, source'.Includes p role ↔ source.Includes p role := fun role => by
    rw [Includes, Includes, hroles]
  obtain ⟨v, hv, hallows⟩ := privileges_eq_ok hl (fun g _ => hread g.role) p
  obtain ⟨v', hv', hallows'⟩ := privileges_eq_ok hl' (fun g _ => hread' g.role) p
  rw [hv, hv']
  refine congrArg (Except.ok ∘ Privileges.mk) (CapabilitySet.ext_allows fun c => ?_)
  have hiff : v'.allows c = true ↔ v.allows c = true := by
    rw [hallows, hallows', hsame.roles_perm.mem_iff]
    simp only [hsame.perm.mem_iff, hincludes]
  exact Bool.eq_iff_iff.2 hiff

/-! ## Grants as calls -/

/-- Where a list of grants is kept. -/
inductive Place where
  | store
  | ofClass (className : String)
  | object (id : ObjectId)
  deriving DecidableEq

/-- The place where the grants of a scope are kept. -/
def Scope.place : Scope → Place
  | store => .store
  | ofClass className => .ofClass className
  | object reference => .object reference.id

/-- A grant at a scope. -/
structure ScopedGrant where
  scope : Scope
  grant : Grant
  deriving DecidableEq

namespace ScopedGrant

/-- The call that makes the grant. -/
def call : ScopedGrant → Call
  | ⟨.store, g⟩ => .grantOnStore g.role g.capabilities
  | ⟨.ofClass className, g⟩ => .grantOnClass className g.role g.capabilities
  | ⟨.object object, g⟩ => .grantOnObject object g.role g.capabilities

theorem change?_call (a : ScopedGrant) (id : StoreId) :
    ∃ change, a.call.change? id = some change := by
  obtain ⟨scope, g⟩ := a
  cases scope <;> exact ⟨_, rfl⟩

/-- The writes of grants that are all made. -/
def writes (grants : List ScopedGrant) : Transaction := grants.map fun a => ⟨a.call, .done⟩

/-- What the grant sets: the entry of a role in the list at a place. -/
def target (a : ScopedGrant) : Place × String := (a.scope.place, a.grant.role)

end ScopedGrant

/-- The same grants in another order, in which no two grants that set the same entry have changed
places. -/
structure Rearranges (grants grants' : List ScopedGrant) : Prop where
  perm : grants'.Perm grants
  order : ∀ target, grants'.filter (·.target = target) = grants.filter (·.target = target)

/-- Only the entries that are set need to be looked at. -/
theorem rearranges_iff {grants grants' : List ScopedGrant} : Rearranges grants grants' ↔
    grants'.Perm grants ∧
      ∀ a ∈ grants, grants'.filter (·.target = a.target) = grants.filter (·.target = a.target) := by
  refine ⟨fun h => ⟨h.perm, fun a _ => h.order a.target⟩, fun ⟨hperm, horder⟩ => ⟨hperm, ?_⟩⟩
  intro target
  by_cases hset : ∃ a ∈ grants, a.target = target
  · obtain ⟨a, ha, rfl⟩ := hset
    exact horder a ha
  · have hnone : grants.filter (·.target = target) = [] :=
      List.filter_eq_nil_iff.2 fun a ha => by simpa using fun heq => hset ⟨a, ha, heq⟩
    rw [hnone]
    exact (hnone ▸ hperm.filter _).eq_nil

instance (grants grants' : List ScopedGrant) : Decidable (Rearranges grants grants') :=
  decidable_of_iff _ rearranges_iff.symm

namespace Contents

variable {contents contents' : Contents} {id : StoreId} {a : ScopedGrant}

/-- The grants that are kept at a place, if it is there. -/
def grantsOn? (contents : Contents) : Place → Option GrantList
  | .store => some contents.realm.grants
  | .ofClass className => (contents.classes.get? className).map (·.grants)
  | .object id => contents.objects.get? id

theorem Sound.distinct (h : contents.Sound) {place : Place} {l : GrantList}
    (hl : contents.grantsOn? place = some l) : l.Distinct := by
  cases place with
  | store =>
    cases hl
    exact h.realm_backed.distinct
  | ofClass className =>
    obtain ⟨kept, hkept, rfl⟩ := Option.map_eq_some_iff.1 hl
    exact (h.class_backed hkept).distinct
  | object id => exact (h.object_backed hl).distinct

/-! ## When a grant succeeds -/

/-- The role of the grant has a name, and the place that it goes to is there in the store. -/
structure Takes (id : StoreId) (contents : Contents) (a : ScopedGrant) : Prop where
  named : Text.isBlank a.grant.role = false
  within : a.scope.Within id
  placed : (contents.grantsOn? a.scope.place).isSome = true

section Apply

variable {g : Grant} (h : Text.isBlank g.role = false)

include h

theorem apply_grantOnStore : (grantOnStore g).apply contents =
    (.ok ⟨⟩, { contents.withRole g.role with realm := ⟨contents.realm.grants.grant g⟩ }) :=
  Action.apply_bind_of_ok (apply_ensureRole_of_named h) _

theorem apply_grantOnClass {className : String} {kept : ClassGrants}
    (hkept : contents.classes.get? className = some kept) :
    (grantOnClass className g).apply contents = (.ok ⟨⟩, { contents.withRole g.role with
      classes := contents.classes.insert className { kept with grants := kept.grants.grant g } }) := by
  simp [grantOnClass, Action.apply_bind, hasClass, SortedMap.contains, hkept,
    apply_ensureRole_of_named h]

theorem apply_grantOnObject {id : ObjectId} {grants : GrantList}
    (hgrants : contents.objects.get? id = some grants) :
    (grantOnObject id g).apply contents = (.ok ⟨⟩, { contents.withRole g.role with
      objects := contents.objects.insert id (grants.grant g) }) := by
  simp [grantOnObject, Action.apply_bind, SortedMap.contains, hgrants,
    apply_ensureRole_of_named h]

end Apply

theorem Takes.applies (h : contents.Takes id a) : ∃ change contents',
    a.call.change? id = some change ∧ change.apply contents = (.ok .done, contents') := by
  obtain ⟨scope, g⟩ := a
  have hg : Grant.ofName g.role g.capabilities = .ok g := Grant.ofName_eq_ok_iff.2 ⟨rfl, h.named⟩
  cases scope with
  | store =>
    have hgrant : (grantOnStore g).apply contents = _ := apply_grantOnStore h.named
    exact ⟨_, _, rfl, Action.apply_lift_bind_eq_ok_iff.2
      ⟨g, hg, Action.apply_return_eq_ok_iff.2 ⟨_, hgrant, rfl⟩⟩⟩
  | ofClass className =>
    obtain ⟨grants, hplaced⟩ := Option.isSome_iff_exists.1 h.placed
    obtain ⟨kept, hkept, -⟩ := Option.map_eq_some_iff.1 hplaced
    have hgrant := apply_grantOnClass h.named hkept
    exact ⟨_, _, rfl, Action.apply_lift_bind_eq_ok_iff.2
      ⟨g, hg, Action.apply_return_eq_ok_iff.2 ⟨_, hgrant, rfl⟩⟩⟩
  | object object =>
    obtain ⟨grants, hgrants⟩ := Option.isSome_iff_exists.1 h.placed
    have howned : object.requireStore id = .ok () := requireStore_eq_ok_iff.2 h.within
    have hgrant := apply_grantOnObject h.named hgrants
    exact ⟨_, _, rfl, Action.apply_lift_bind_eq_ok_iff.2
      ⟨(), howned, Action.apply_lift_bind_eq_ok_iff.2
        ⟨g, hg, Action.apply_return_eq_ok_iff.2 ⟨_, hgrant, rfl⟩⟩⟩⟩

/-- A grant that is made could be made. -/
theorem takes_of_apply {change : Action Contents Reply} {reply : Reply}
    (hcall : a.call.change? id = some change) (h : change.apply contents = (.ok reply, contents')) :
    contents.Takes id a := by
  obtain ⟨scope, g⟩ := a
  cases scope with
  | store =>
    cases hcall
    obtain ⟨g', hg, -⟩ := Action.apply_lift_bind_eq_ok_iff.1 h
    exact ⟨(Grant.ofName_eq_ok_iff.1 hg).2, trivial, rfl⟩
  | ofClass className =>
    cases hcall
    obtain ⟨g', hg, h⟩ := Action.apply_lift_bind_eq_ok_iff.1 h
    obtain ⟨_, hgrant, -⟩ := Action.apply_return_eq_ok_iff.1 h
    obtain ⟨kept, hkept, -⟩ := eq_of_grantOnClass hgrant
    refine ⟨(Grant.ofName_eq_ok_iff.1 hg).2, trivial, ?_⟩
    exact Option.isSome_iff_exists.2 ⟨_, Option.map_eq_some_iff.2 ⟨kept, hkept, rfl⟩⟩
  | object object =>
    cases hcall
    obtain ⟨_, howned, h⟩ := Action.apply_lift_bind_eq_ok_iff.1 h
    obtain ⟨g', hg, h⟩ := Action.apply_lift_bind_eq_ok_iff.1 h
    obtain ⟨_, hgrant, -⟩ := Action.apply_return_eq_ok_iff.1 h
    obtain ⟨grants, hgrants, -⟩ := eq_of_grantOnObject hgrant
    exact ⟨(Grant.ofName_eq_ok_iff.1 hg).2, requireStore_eq_ok_iff.1 howned,
      Option.isSome_iff_exists.2 ⟨grants, hgrants⟩⟩

/-! ## What a grant leaves -/

/-- The contents are those before, with one more grant in its place and a role for it. -/
structure Receives (contents : Contents) (a : ScopedGrant) (contents' : Contents) : Prop where
  grantsOn? : ∀ place, contents'.grantsOn? place =
    if place = a.scope.place then (contents.grantsOn? place).map (·.grant a.grant)
    else contents.grantsOn? place
  roles : contents'.roles = (contents.withRole a.grant.role).roles
  principals : contents'.principals = contents.principals
  nextKey : contents'.nextKey = contents.nextKey

theorem Effect.receives {reply : Reply} (h : Effect id contents a.call reply contents') :
    reply = .done ∧ contents.Receives a contents' := by
  obtain ⟨scope, g⟩ := a
  cases scope with
  | store =>
    cases h with
    | createObject hcreates => cases hcreates
    | grantOnStore =>
      refine ⟨rfl, ⟨fun place => ?_, rfl, rfl, rfl⟩⟩
      cases place with
      | store => rfl
      | ofClass | object => rfl
  | ofClass className =>
    cases h with
    | createObject hcreates => cases hcreates
    | @grantOnClass _ _ _ kept hkept =>
      refine ⟨rfl, ⟨fun place => ?_, rfl, rfl, rfl⟩⟩
      cases place with
      | store | object => rfl
      | ofClass other =>
        simp only [Contents.grantsOn?, SortedMap.get?_insert, Scope.place]
        by_cases hother : other = className
        · simp [hother, hkept]
        · simp [hother]
  | object object =>
    cases h with
    | createObject hcreates => cases hcreates
    | @grantOnObject _ _ _ grants howned hgrants =>
      refine ⟨rfl, ⟨fun place => ?_, rfl, rfl, rfl⟩⟩
      cases place with
      | store | ofClass => rfl
      | object other =>
        simp only [Contents.grantsOn?, SortedMap.get?_insert, Scope.place]
        by_cases hother : other = object.id
        · simp [hother, hgrants]
        · simp [hother]

/-- A grant takes none of the places away, and adds none. -/
theorem Receives.isSome_grantsOn? (h : contents.Receives a contents') (place : Place) :
    (contents'.grantsOn? place).isSome = (contents.grantsOn? place).isSome := by
  rw [h.grantsOn?]
  split
  · rw [Option.isSome_map]
  · rfl

/-- Another grant can be made afterwards just if it could be before. -/
theorem Receives.takes_iff (h : contents.Receives a contents') {b : ScopedGrant} :
    contents'.Takes id b ↔ contents.Takes id b := by
  constructor
  · rintro ⟨hnamed, hwithin, hplaced⟩
    exact ⟨hnamed, hwithin, by rwa [← h.isSome_grantsOn?]⟩
  · rintro ⟨hnamed, hwithin, hplaced⟩
    exact ⟨hnamed, hwithin, by rwa [h.isSome_grantsOn?]⟩

/-! ## What grants leave that are made one after the other -/

/-- The contents are those before, with the grants made at each place in their order, and a role
for each of them. -/
structure ReceivesAll (contents : Contents) (grants : List ScopedGrant) (contents' : Contents) :
    Prop where
  grantsOn? : ∀ place, contents'.grantsOn? place = (contents.grantsOn? place).map
    (·.grantAll ((grants.filter (·.scope.place = place)).map (·.grant)))
  roles : ∀ role, contents'.roles.get? role = (contents.roles.get? role).or
    (if role ∈ grants.map (·.grant.role) then some ⟨role, .empty⟩ else none)
  principals : contents'.principals = contents.principals
  nextKey : contents'.nextKey = contents.nextKey

theorem receivesAll_nil (contents : Contents) : contents.ReceivesAll [] contents where
  grantsOn? place := by simp [GrantList.grantAll]
  roles role := by simp
  principals := rfl
  nextKey := rfl

theorem Receives.receivesAll {between : Contents} {grants : List ScopedGrant}
    (h : contents.Receives a between) (hrest : between.ReceivesAll grants contents') :
    contents.ReceivesAll (a :: grants) contents' where
  grantsOn? place := by
    rw [hrest.grantsOn?, h.grantsOn?, List.filter_cons]
    by_cases hplace : a.scope.place = place
    · rw [if_pos hplace.symm, if_pos (decide_eq_true hplace), Option.map_map]
      rfl
    · rw [if_neg (Ne.symm hplace), if_neg (by simpa using hplace)]
  roles role := by
    rw [hrest.roles, h.roles, get?_roles_withRole, List.map_cons]
    by_cases hrole : role = a.grant.role
    · subst hrole
      cases contents.roles.get? a.grant.role <;> simp
    · simp [hrole]
  principals := hrest.principals.trans h.principals
  nextKey := hrest.nextKey.trans h.nextKey

/-- Grants that are all made could all be made at the start. -/
theorem receivesAll_of_replays {grants : List ScopedGrant}
    (h : Replays id (ScopedGrant.writes grants) contents contents') :
    (∀ a ∈ grants, contents.Takes id a) ∧ contents.ReceivesAll grants contents' := by
  induction grants generalizing contents with
  | nil =>
    cases h
    exact ⟨by simp, receivesAll_nil _⟩
  | cons a grants ih =>
    cases h with
    | cons hcall hrun hrest =>
      obtain ⟨-, hreceives⟩ := (effect_of_call hcall hrun).receives
      obtain ⟨htakes, hall⟩ := ih hrest
      refine ⟨List.forall_mem_cons.2 ⟨takes_of_apply hcall hrun, fun b hb => ?_⟩,
        hreceives.receivesAll hall⟩
      exact hreceives.takes_iff.1 (htakes b hb)

/-- Grants that could all be made at the start can be made one after the other. -/
theorem replays_of_takes {grants : List ScopedGrant} (h : ∀ a ∈ grants, contents.Takes id a) :
    ∃ contents', Replays id (ScopedGrant.writes grants) contents contents' := by
  induction grants generalizing contents with
  | nil => exact ⟨contents, .nil⟩
  | cons a grants ih =>
    obtain ⟨htakes, hrest⟩ := List.forall_mem_cons.1 h
    obtain ⟨change, between, hcall, hrun⟩ := htakes.applies
    obtain ⟨-, hreceives⟩ := (effect_of_call hcall hrun).receives
    obtain ⟨contents', hreplays⟩ := ih fun b hb => hreceives.takes_iff.2 (hrest b hb)
    exact ⟨contents', .cons hcall hrun hreplays⟩

/-! ## Contents that differ in the order of entries -/

/-- The contents are the same, apart from the order of the entries in their lists of grants. -/
structure SameButOrder (contents contents' : Contents) : Prop where
  grantsOn? : ∀ place,
    Option.Rel GrantList.SameEntries (contents.grantsOn? place) (contents'.grantsOn? place)
  roles : contents'.roles = contents.roles
  principals : contents'.principals = contents.principals
  nextKey : contents'.nextKey = contents.nextKey

/-- Rearranged grants leave the same in another order. -/
theorem ReceivesAll.sameButOrder {last last' : Contents} {grants grants' : List ScopedGrant}
    (h : contents.ReceivesAll grants last) (h' : contents.ReceivesAll grants' last')
    (hsound : contents.Sound) (hrearranges : Rearranges grants grants') :
    last.SameButOrder last' where
  grantsOn? place := by
    rw [h.grantsOn?, h'.grantsOn?]
    cases hl : contents.grantsOn? place with
    | none => exact .none
    | some l =>
      refine .some (GrantList.sameEntries_grantAll (hsound.distinct hl) fun role => ?_)
      -- The grants to one role at one place are those that set one entry.
      have htarget : ∀ gs : List ScopedGrant,
          ((gs.filter (·.scope.place = place)).map (·.grant)).filter (·.role = role) =
            (gs.filter (·.target = (place, role))).map (·.grant) := fun gs => by
        rw [List.filter_map, List.filter_filter]
        refine congrArg (List.map _) (List.filter_congr fun a _ => ?_)
        simp [ScopedGrant.target, and_comm]
      rw [htarget, htarget, hrearranges.order]
  roles := by
    refine SortedMap.ext_get? fun role => ?_
    rw [h.roles, h'.roles]
    simp only [(hrearranges.perm.map _).mem_iff]
  principals := h'.principals.trans h.principals.symm
  nextKey := h'.nextKey.trans h.nextKey.symm

end Contents

/-- What a resolution asks of a scope before it reads the grants there. -/
def GrantSource.requireScope (source : GrantSource) : Scope → Except AccessError Unit
  | .store => .ok ()
  | .ofClass className => source.requireClassScope className
  | .object object => source.requireClassScope object.className

namespace Contents

variable {contents contents' : Contents}

theorem grantsAt_source (contents : Contents) (scope : Scope) :
    contents.source.grantsAt scope = do
      contents.source.requireScope scope
      return (contents.grantsOn? scope.place).getD .empty := by
  cases scope with
  | store => rfl
  | ofClass className =>
    simp only [GrantSource.grantsAt, GrantSource.requireScope, Scope.place, grantsOn?]
    simp only [source]
    cases contents.classes.get? className <;> rfl
  | object object => rfl

theorem hasClass_eq_isSome (contents : Contents) (className : String) :
    contents.hasClass className = (contents.grantsOn? (.ofClass className)).isSome :=
  Option.isSome_map.symm

namespace SameButOrder

theorem hasClass_eq (h : contents.SameButOrder contents') (className : String) :
    contents'.hasClass className = contents.hasClass className := by
  rw [hasClass_eq_isSome, hasClass_eq_isSome]
  have hgrants := h.grantsOn? (.ofClass className)
  generalize contents.grantsOn? (.ofClass className) = l? at hgrants
  generalize contents'.grantsOn? (.ofClass className) = l'? at hgrants
  cases hgrants <;> rfl

theorem requireScope_eq (h : contents.SameButOrder contents') (scope : Scope) :
    contents'.source.requireScope scope = contents.source.requireScope scope := by
  cases scope with
  | store => rfl
  | ofClass className => exact requireClassScope_congr h.hasClass_eq className
  | object object => exact requireClassScope_congr h.hasClass_eq object.className

theorem sameEntries (h : contents.SameButOrder contents') (place : Place) :
    ((contents.grantsOn? place).getD .empty).SameEntries
      ((contents'.grantsOn? place).getD .empty) := by
  have hgrants := h.grantsOn? place
  generalize contents.grantsOn? place = l? at hgrants
  generalize contents'.grantsOn? place = l'? at hgrants
  cases hgrants with
  | none => exact ⟨.refl _, fun _ => rfl⟩
  | some hsame => exact hsame

/-- **The order of entries does not show**: every principal has the same privileges at every
scope. -/
theorem privileges_eq (h : contents.SameButOrder contents') (p : Principal) (scope : Scope) :
    contents'.source.privileges p scope = contents.source.privileges p scope := by
  have hgrants := contents.grantsAt_source scope
  have hgrants' := contents'.grantsAt_source scope
  rw [h.requireScope_eq] at hgrants'
  rcases hrequire : contents.source.requireScope scope with error | _
  · rw [hrequire, error_bind] at hgrants hgrants'
    simp only [GrantSource.privileges, hgrants, hgrants', error_bind]
  · rw [hrequire, ok_bind] at hgrants hgrants'
    refine GrantSource.privileges_eq_of_sameEntries (GrantSource.grantsAt_eq_ok_iff.1 hgrants)
      (GrantSource.grantsAt_eq_ok_iff.1 hgrants') (h.sameEntries scope.place) ?_
      contents.roleRead_source p
    funext role
    simp only [source, h.roles]

end SameButOrder

end Contents

/-! ## Grants through a handle -/

namespace Store

variable {store : Store} {handle : HandleId} {connection : Connection} {caller : Thread}

/-- Grants that a caller makes through a handle, one after the other. -/
def grantEvents (handle : HandleId) (caller : Thread) (grants : List ScopedGrant) : List Event :=
  grants.map fun a => .call handle caller a.call

/-- The store after these grants were asked for. -/
def afterGrants (store : Store) (handle : HandleId) (caller : Thread)
    (grants : List ScopedGrant) : Store :=
  (store.run (grantEvents handle caller grants)).2

/-- Grants that all succeed are writes of the transaction of their handle. -/
theorem replays_of_run {grants : List ScopedGrant}
    (hconnection : store.connection? handle = some connection)
    (hdone : ∀ outcome ∈ (store.run (grantEvents handle caller grants)).1,
      outcome.reply? = some .done) :
    (grants = [] ∨ connection.requireUsable caller = .ok ()) ∧
      ∃ last, Replays connection.storeId (ScopedGrant.writes grants) connection.visible last := by
  induction grants generalizing store connection with
  | nil => exact ⟨.inl rfl, _, .nil⟩
  | cons a grants ih =>
    rw [grantEvents, List.map_cons, run_cons, List.forall_mem_cons] at hdone
    obtain ⟨hfirst, hrest⟩ := hdone
    obtain ⟨change, hcall⟩ := a.change?_call connection.storeId
    by_cases hwrites : ∃ contents, connection.Writes caller contents
    · obtain ⟨contents, hwrites⟩ := hwrites
      rcases hrun : change.apply contents with ⟨result, between⟩
      obtain ⟨houtcome, hnext⟩ := connection?_step hconnection
        (Connection.apply_write hwrites hcall hrun) rfl
      rw [houtcome, Outcome.reply?_eq_some_iff] at hfirst
      cases hfirst
      obtain ⟨-, last, hreplays⟩ := ih hnext hrest
      rw [Connection.visible_eq hwrites]
      exact ⟨.inr hwrites.usable, last, .cons hcall hrun hreplays⟩
    · obtain ⟨error, hrefuse⟩ := Connection.refuses_call (not_exists.1 hwrites) hcall
      rw [step_call hconnection hrefuse] at hfirst
      cases hfirst

/-- Grants that can be made in the transaction of a handle succeed through it. -/
theorem run_grants {grants : List ScopedGrant} {contents last : Contents}
    (hconnection : store.connection? handle = some connection)
    (hpending : connection.handle.pending = some contents)
    (hserves : grants = [] ∨ connection.requireUsable caller = .ok ())
    (hreplays : Replays connection.storeId (ScopedGrant.writes grants) contents last) :
    (∀ outcome ∈ (store.run (grantEvents handle caller grants)).1, outcome.reply? = some .done) ∧
      (store.afterGrants handle caller grants).connection? handle =
        some (connection.withPending last) := by
  unfold afterGrants
  rcases hserves with rfl | husable
  · cases hreplays
    refine ⟨by simp [grantEvents], ?_⟩
    rw [Connection.withPending, ← hpending]
    exact hconnection
  · obtain ⟨houtcomes, hlast⟩ := run_writes hconnection ⟨husable, hpending⟩ hreplays
    have hevents : (ScopedGrant.writes grants).map (fun w => Event.call handle caller w.call) =
        grantEvents handle caller grants := by
      simp [ScopedGrant.writes, grantEvents]
    rw [hevents] at houtcomes hlast
    refine ⟨?_, hlast⟩
    rw [houtcomes, ScopedGrant.writes]
    simp [Outcome.reply?]

/-- **Independent grants commute.** Let grants all succeed in the transaction of a handle. Made in
another order, in which no two that set the same entry have changed places, they all succeed as
well. What the transaction works on in the end is then the same, entries found in lists of grants
included, but for the order of the entries; and whoever asks through the handle gets the same
roles and the same privileges at every scope. -/
theorem independent_grants_commute (h : store.Reachable)
    (hconnection : store.connection? handle = some connection)
    {contents : Contents} (hpending : connection.handle.pending = some contents)
    {grants grants' : List ScopedGrant} (hrearranges : Rearranges grants grants')
    (hdone : ∀ outcome ∈ (store.run (grantEvents handle caller grants)).1,
      outcome.reply? = some .done) :
    (∀ outcome ∈ (store.run (grantEvents handle caller grants')).1,
      outcome.reply? = some .done) ∧
    ∃ last last', (store.afterGrants handle caller grants).pending? handle = some last ∧
      (store.afterGrants handle caller grants').pending? handle = some last' ∧
      last.SameButOrder last' ∧
      ∀ reader,
        (store.afterGrants handle caller grants').read handle reader .listRoles =
          (store.afterGrants handle caller grants).read handle reader .listRoles ∧
        (∀ role, (store.afterGrants handle caller grants').read handle reader (.findRole role) =
          (store.afterGrants handle caller grants).read handle reader (.findRole role)) ∧
        ∀ principal scope,
          (store.afterGrants handle caller grants').read handle reader
              (.privilegesOf principal scope) =
            (store.afterGrants handle caller grants).read handle reader
              (.privilegesOf principal scope) := by
  have hvisible : connection.visible = contents := by
    rw [Connection.visible, hpending, Option.getD_some]
  have hsound : contents.Sound := (h.sound.of_connection? hconnection).pending hpending
  -- The grants could all be made at the start, so the others can be made as well.
  obtain ⟨hserves, last, hreplays⟩ := replays_of_run hconnection hdone
  rw [hvisible] at hreplays
  obtain ⟨htakes, hall⟩ := Contents.receivesAll_of_replays hreplays
  have htakes' : ∀ a ∈ grants', contents.Takes connection.storeId a := fun a ha =>
    htakes a (hrearranges.perm.mem_iff.1 ha)
  obtain ⟨last', hreplays'⟩ := Contents.replays_of_takes htakes'
  obtain ⟨-, hall'⟩ := Contents.receivesAll_of_replays hreplays'
  have hsame := hall.sameButOrder hall' hsound hrearranges
  have hserves' : grants' = [] ∨ connection.requireUsable caller = .ok () :=
    hserves.imp_left fun hnil => (hnil ▸ hrearranges.perm).eq_nil
  obtain ⟨-, hlast⟩ := run_grants hconnection hpending hserves hreplays
  obtain ⟨hdone', hlast'⟩ := run_grants hconnection hpending hserves' hreplays'
  refine ⟨hdone', last, last', pending?_of_connection? hlast, pending?_of_connection? hlast',
    hsame, fun reader => ⟨?_, fun role => ?_, fun principal scope => ?_⟩⟩
  · rw [read_eq hlast, read_eq hlast']
    exact congrArg (fun roles : SortedMap String Role => Outcome.called (.ok (.roles roles.values)))
      hsame.roles
  · rw [read_eq hlast, read_eq hlast']
    exact congrArg (fun roles : SortedMap String Role =>
      Outcome.called (.ok (.keptRole (roles.get? role)))) hsame.roles
  · exact read_privilegesOf_congr hlast hlast' (fun p => hsame.privileges_eq p scope) reader
      principal

/-- Grants to everyone and to editors on the store, and to editors on a class, which is a role that
the first of them creates. The two to editors on the store stay in their order. -/
theorem independent_grants_commute_everyone_last :
    let alice : Principal := ⟨"alice", by decide⟩
    let before : List Event := [.openHandle ⟨0⟩ alice.text, .call ⟨0⟩ ⟨0⟩ .begin]
    let everyone : ScopedGrant := ⟨.store, ⟨everyoneName, .none⟩⟩
    let write : ScopedGrant := ⟨.store, ⟨"editors", .all⟩⟩
    let read : ScopedGrant := ⟨.store, ⟨"editors", .ofList [.read]⟩⟩
    let documents : ScopedGrant := ⟨.ofClass "Document", ⟨"editors", .all⟩⟩
    ∃ start : Store, Store.ofClasses ⟨0⟩ ["Document"] = .ok start ∧
      Rearranges [everyone, write, read, documents] [documents, write, everyone, read] ∧
      (∀ outcome ∈ ((start.run before).2.run
          (grantEvents ⟨0⟩ ⟨0⟩ [documents, write, everyone, read])).1,
        outcome.reply? = some .done) ∧
      ∀ reader principal scope,
        ((start.run before).2.afterGrants ⟨0⟩ ⟨0⟩ [documents, write, everyone, read]).read ⟨0⟩
            reader (.privilegesOf principal scope) =
          ((start.run before).2.afterGrants ⟨0⟩ ⟨0⟩ [everyone, write, read, documents]).read ⟨0⟩
            reader (.privilegesOf principal scope) := by
  intro alice before everyone write read documents
  have hnew : Store.ofClasses ⟨0⟩ ["Document"] = .ok _ := rfl
  have hrearranges : Rearranges [everyone, write, read, documents]
      [documents, write, everyone, read] := by decide
  refine ⟨_, hnew, hrearranges, ?_⟩
  have hreachable := (Reachable.ofClasses hnew).run before
  simp only [before, run_cons, step_openHandle, Principal.parse_text] at hreachable ⊢
  obtain ⟨hdone, _, _, -, -, -, hreads⟩ := independent_grants_commute hreachable
    (show Store.connection? _ ⟨0⟩ = some _ from rfl) rfl hrearranges
    (show ∀ outcome ∈ (Store.run _ (grantEvents ⟨0⟩ ⟨0⟩ _)).1, outcome.reply? = some .done by
      decide +kernel)
  exact ⟨hdone, fun reader => (hreads reader).2.2⟩

end Store

end StoreAccess
