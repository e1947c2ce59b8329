import Mathlib.Logic.Relation
import StoreAccess.Proofs.Store.Writing

/-!
# What changes do to the contents

A change of the contents takes several steps, and what a step did stays done when a later one
fails. `Edit` lists the steps that do anything.

Main statement: `settles_call`, that the change of a call either fails before its first edit, and
then leaves the contents as they are, or succeeds after some edits.
-/

namespace StoreAccess.Contents

/-- A step of a change that does something to the contents. -/
inductive Edit (contents : Contents) : Contents → Prop
  | createObject {className : String} :
      contents.hasClass className = true →
        Edit contents { contents with
          objects := contents.objects.insert ⟨className, ⟨contents.nextKey⟩⟩ .empty
          nextKey := contents.nextKey + 1 }
  | deleteObject (id : ObjectId) :
      Edit contents { contents with objects := contents.objects.erase id }
  | fileRole {role : String} :
      Text.isBlank role = false → contents.roles.contains role = false →
        Edit contents { contents with roles := contents.roles.insert role ⟨role, .empty⟩ }
  | grantOnStore {g : Grant} :
      contents.roles.contains g.role = true →
        Edit contents { contents with realm := ⟨contents.realm.grants.grant g⟩ }
  | grantOnClass {g : Grant} {className : String} {kept : ClassGrants} :
      contents.roles.contains g.role = true → contents.classes.get? className = some kept →
        Edit contents { contents with
          classes := contents.classes.insert className { kept with grants := kept.grants.grant g } }
  | grantOnObject {g : Grant} {id : ObjectId} {grants : GrantList} :
      contents.roles.contains g.role = true → contents.objects.get? id = some grants →
        Edit contents { contents with objects := contents.objects.insert id (grants.grant g) }
  | recordPrincipal (p : Principal) :
      Edit contents { contents with principals := contents.principals.insert p }
  | changeMembers {role : String} {found changed : Role} :
      contents.roles.get? role = some found → changed.name = found.name →
        Edit contents { contents with roles := contents.roles.insert role changed }

/-- One edit after the other. -/
abbrev Edits : Contents → Contents → Prop := Relation.ReflTransGen Edit

/-- The action succeeds after some edits. -/
def Succeeds {α : Type} (contents : Contents) (action : Action Contents α) : Prop :=
  ∃ a contents', action.apply contents = (.ok a, contents') ∧ Edits contents contents'

/-- The action fails and leaves the contents as they are, or it succeeds after some edits. -/
def Settles {α : Type} (contents : Contents) (action : Action Contents α) : Prop :=
  (∃ error, action.apply contents = (.error error, contents)) ∨ contents.Succeeds action

section Settles

variable {contents : Contents} {α β : Type}

theorem settles_lift_bind {result : Except AccessError α} {f : α → Action Contents β}
    (h : ∀ a, result = .ok a → contents.Settles (f a)) :
    contents.Settles (liftM result >>= f) := by
  cases result with
  | error error => exact .inl ⟨error, rfl⟩
  | ok a => exact h a rfl

theorem settles_get_bind {f : Contents → Action Contents α} (h : contents.Settles (f contents)) :
    contents.Settles (get >>= f) := h

theorem settles_return {action : Action Contents α} (h : contents.Settles action) (f : α → β) :
    contents.Settles (action >>= fun a => pure (f a)) := by
  rcases h with ⟨error, h⟩ | ⟨a, contents', h, hedits⟩
  · exact .inl ⟨error, Action.apply_bind_of_error h _⟩
  · exact .inr ⟨f a, contents', Action.apply_bind_of_ok h _, hedits⟩

/-! ## Objects -/

theorem settles_createObject (contents : Contents) (className : String) :
    contents.Settles (createObject className) := by
  refine settles_get_bind ?_
  cases hclass : contents.hasClass className with
  | false => exact .inl ⟨.unknownType className, by simp⟩
  | true => exact .inr ⟨⟨contents.nextKey⟩, _, by simp, .single (.createObject hclass)⟩

theorem settles_deleteObject (contents : Contents) (id : ObjectId) :
    contents.Settles (deleteObject id) :=
  .inr ⟨contents.objects.contains id, _, rfl, .single (.deleteObject id)⟩

/-! ## Grants -/

/-- The contents after a role was made sure of: the role is there, and the classes and objects
are as they were. -/
structure Ensured (contents : Contents) (role : String) (contents' : Contents) : Prop where
  edits : Edits contents contents'
  contains : contents'.roles.contains role = true
  classes : contents'.classes = contents.classes
  objects : contents'.objects = contents.objects

theorem apply_ensureRole (contents : Contents) (role : String) :
    (∃ error, (ensureRole role).apply contents = (.error error, contents)) ∨
      ∃ contents', (ensureRole role).apply contents = (.ok ⟨⟩, contents') ∧
        contents.Ensured role contents' := by
  unfold ensureRole
  cases hrole : contents.roles.contains role with
  | true => exact .inr ⟨contents, by simp [Action.apply_bind, hrole], .refl, hrole, rfl, rfl⟩
  | false =>
    rcases hname : Role.ofName role with error | created
    · exact .inl ⟨error, by simp [Action.apply_bind, hrole]⟩
    · obtain ⟨rfl, hblank⟩ := Role.ofName_eq_ok_iff.1 hname
      have hthere : (contents.roles.insert role ⟨role, .empty⟩).contains role = true := by
        simp [SortedMap.contains, SortedMap.get?_insert]
      refine .inr ⟨_, ?_, .single (.fileRole hblank hrole), hthere, rfl, rfl⟩
      simp [Action.apply_bind, hrole, hthere]

/-- What is granted once the role is there must not fail. -/
theorem settles_ensureRole_bind {role : String} {f : PUnit → Action Contents α}
    (h : ∀ contents', contents.Ensured role contents' → contents'.Succeeds (f ⟨⟩)) :
    contents.Settles (ensureRole role >>= f) := by
  rcases apply_ensureRole contents role with ⟨error, hrole⟩ | ⟨contents', hrole, hensured⟩
  · exact .inl ⟨error, Action.apply_bind_of_error hrole f⟩
  · obtain ⟨a, contents'', happly, hedits⟩ := h contents' hensured
    exact .inr ⟨a, contents'', (Action.apply_bind_of_ok hrole f).trans happly,
      hensured.edits.trans hedits⟩

theorem settles_grantOnStore (contents : Contents) (g : Grant) :
    contents.Settles (grantOnStore g) :=
  settles_ensureRole_bind fun _ hensured =>
    ⟨⟨⟩, _, rfl, .single (.grantOnStore hensured.contains)⟩

theorem settles_grantOnClass (contents : Contents) (className : String) (g : Grant) :
    contents.Settles (grantOnClass className g) := by
  refine settles_get_bind ?_
  cases hkept : contents.classes.get? className with
  | none => exact .inl ⟨.unknownType className, by simp [hasClass, SortedMap.contains, hkept]⟩
  | some kept =>
    have hclass : contents.hasClass className = true := SortedMap.contains_of_get? hkept
    rw [hclass]
    refine settles_ensureRole_bind fun contents' hensured => ?_
    -- The class is still there, as making sure of the role leaves the classes alone.
    have hthere : contents'.classes.get? className = some kept := by rw [hensured.classes, hkept]
    exact ⟨⟨⟩, _, by simp [Action.apply_bind, hthere],
      .single (.grantOnClass hensured.contains hthere)⟩

theorem settles_grantOnObject (contents : Contents) (id : ObjectId) (g : Grant) :
    contents.Settles (grantOnObject id g) := by
  refine settles_get_bind ?_
  cases hgrants : contents.objects.get? id with
  | none => exact .inl ⟨.unmanagedObject, by simp [SortedMap.contains, hgrants]⟩
  | some grants =>
    have hobject : contents.objects.contains id = true := SortedMap.contains_of_get? hgrants
    rw [hobject]
    refine settles_ensureRole_bind fun contents' hensured => ?_
    have hthere : contents'.objects.get? id = some grants := by rw [hensured.objects, hgrants]
    exact ⟨⟨⟩, _, by simp [Action.apply_bind, hthere],
      .single (.grantOnObject hensured.contains hthere)⟩

/-! ## Roles -/

theorem settles_createRole (contents : Contents) (role : String) :
    contents.Settles (do fileRole (← Role.ofName role)) := by
  refine settles_lift_bind fun created hname => settles_get_bind ?_
  obtain ⟨rfl, hblank⟩ := Role.ofName_eq_ok_iff.1 hname
  cases hrole : contents.roles.contains role with
  | true => exact .inl ⟨.existingRole role, by simp⟩
  | false => exact .inr ⟨⟨role, .empty⟩, _, by simp, .single (.fileRole hblank hrole)⟩

theorem settles_recordPrincipal (contents : Contents) (p : Principal) :
    contents.Settles (recordPrincipal p) :=
  .inr ⟨⟨⟩, _, rfl, .single (.recordPrincipal p)⟩

theorem apply_changeRole {role : String} {found : Role}
    (hfound : contents.roles.get? role = some found) (change : Role → Bool × Role) :
    (changeRole role change).apply contents = (.ok (change found).1,
      { contents with roles := contents.roles.insert role (change found).2 }) := by
  simp [changeRole, Action.apply_bind, hfound]

theorem settles_changeRole (contents : Contents) (role : String) {change : Role → Bool × Role}
    (hname : ∀ found, (change found).2.name = found.name) :
    contents.Settles (changeRole role change) := by
  cases hfound : contents.roles.get? role with
  | none =>
    exact .inl ⟨.missingRole role, by simp [changeRole, Action.apply_bind, hfound]⟩
  | some found =>
    exact .inr ⟨(change found).1, _, apply_changeRole hfound change,
      .single (.changeMembers hfound (hname found))⟩

/-- Whether the role is there is asked first. -/
theorem settles_requireRole_bind {role : String} {f : PUnit → Action Contents α}
    (h : contents.roles.contains role = true → contents.Settles (f ⟨⟩)) :
    contents.Settles (requireRole role >>= f) := by
  cases hrole : contents.roles.contains role with
  | false => exact .inl ⟨.missingRole role, by simp [requireRole, Action.apply_bind, hrole]⟩
  | true =>
    have happly : (requireRole role).apply contents = (.ok ⟨⟩, contents) := by
      simp [requireRole, Action.apply_bind, hrole]
    rw [Settles, Succeeds, Action.apply_bind_of_ok happly]
    exact h hrole

/-- A principal goes on record only when it is sure to become a member. -/
theorem settles_addMember (contents : Contents) (role principal : String) :
    contents.Settles (RoleChange.addMember role principal).change := by
  refine settles_lift_bind fun p _ => settles_requireRole_bind fun hrole => .inr ?_
  let recorded : Contents := { contents with principals := contents.principals.insert p }
  obtain ⟨found, hfound⟩ := Option.isSome_iff_exists.1 hrole
  have hthere : recorded.roles.get? role = some found := hfound
  have hinsert := apply_changeRole hthere (·.insertMember p)
  have hrecord : (recordPrincipal p).apply contents = (.ok ⟨⟩, recorded) := rfl
  refine ⟨.done, _, ?_, .tail (.single (.recordPrincipal p))
    (.changeMembers hthere (found.name_insertMember p))⟩
  rw [Action.apply_bind_of_ok hrecord, insertMember, Action.apply_bind_of_ok hinsert]
  rfl

theorem settles_roleChange (contents : Contents) (change : RoleChange) :
    contents.Settles change.change := by
  cases change with
  | addRole role | createRole role =>
    simpa only [RoleChange.change, bind_assoc] using
      settles_return (contents.settles_createRole role) Reply.role
  | addMember role principal => exact contents.settles_addMember role principal
  | dropMember role principal =>
    exact settles_lift_bind fun p _ => settles_requireRole_bind fun _ =>
      settles_return (contents.settles_changeRole role fun found => found.name_removeMember p) _
  | recordPrincipal principal =>
    exact settles_lift_bind fun p _ => settles_return (contents.settles_recordPrincipal p) _
  | insertMember role principal =>
    exact settles_lift_bind fun p _ =>
      settles_return (contents.settles_changeRole role fun found => found.name_insertMember p) _
  | removeMember role principal =>
    exact settles_lift_bind fun p _ =>
      settles_return (contents.settles_changeRole role fun found => found.name_removeMember p) _

/-- **A change fails before its first edit or not at all.** -/
theorem settles_call (contents : Contents) {id : StoreId} {call : Call}
    {change : Action Contents Reply} (hcall : call.change? id = some change) :
    contents.Settles change := by
  cases call with
  | begin | commit | cancel | close => cases hcall
  | createObject className | createTyped type =>
    cases hcall
    exact settles_return (contents.settles_createObject _) _
  | deleteObject object =>
    cases hcall
    exact settles_lift_bind fun _ _ => settles_return (contents.settles_deleteObject object.id) _
  | grantOnStore role capabilities =>
    cases hcall
    exact settles_lift_bind fun g _ => settles_return (contents.settles_grantOnStore g) _
  | grantOnClass className role capabilities =>
    cases hcall
    exact settles_lift_bind fun g _ => settles_return (contents.settles_grantOnClass className g) _
  | grantOnObject object role capabilities =>
    cases hcall
    exact settles_lift_bind fun _ _ => settles_lift_bind fun g _ =>
      settles_return (contents.settles_grantOnObject object.id g) _
  | request request =>
    cases request with
    | query query => cases hcall
    | change change =>
      cases hcall
      exact contents.settles_roleChange change

theorem edits_of_call {contents' : Contents} {id : StoreId} {call : Call}
    {change : Action Contents Reply} {reply : Reply} (hcall : call.change? id = some change)
    (hrun : change.apply contents = (.ok reply, contents')) : Edits contents contents' := by
  rcases contents.settles_call hcall with ⟨error, hfail⟩ | ⟨_, _, hdone, hedits⟩
  · rw [hfail] at hrun
    cases hrun
  · rw [hdone] at hrun
    obtain ⟨-, rfl⟩ := Prod.mk.inj hrun
    exact hedits

end Settles

end StoreAccess.Contents
