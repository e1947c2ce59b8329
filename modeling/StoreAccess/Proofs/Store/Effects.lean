import StoreAccess.Proofs.Store.Events

/-!
# What a writing call that succeeds has done

`Effect` says for each writing call what the contents are after it succeeded and what it answered.
Facts about particular calls are drawn from it, by cases on the effect.

Main statement: `effect_of_call`.
-/

namespace StoreAccess

/-- In one store, what is known by the same class and key is the same object. -/
theorem ObjectRef.eq_of_id_eq {id : StoreId} {object other : ObjectRef}
    (hobject : object.storeId = some id) (hother : other.storeId = some id)
    (h : object.id = other.id) : object = other := by
  obtain ⟨hclass, hkey⟩ := ObjectId.mk.inj h
  cases object
  cases other
  simp_all

/-- The class that a call creates an object of. -/
def Call.creates? : Call → Option String
  | createObject className => some className
  | createTyped type => some type.className
  | _ => none

theorem Call.change?_of_creates? {call : Call} {className : String}
    (h : call.creates? = some className) (id : StoreId) :
    ∃ change, call.change? id = some change := by
  cases call with
  | createObject | createTyped => exact ⟨_, rfl⟩
  | begin | commit | cancel | close | deleteObject | grantOnStore | grantOnClass | grantOnObject
  | request => cases h

/-- The role that a change of roles creates. -/
def RoleChange.creates? : RoleChange → Option String
  | addRole role | createRole role => some role
  | _ => none

/-- A principal becomes a member of a role. -/
inductive RoleChange.Adds (role : String) (p : Principal) : RoleChange → Prop
  | addMember : Adds role p (.addMember role p.text)
  | insertMember : Adds role p (.insertMember role p.text)

/-- A principal stops being a member of a role. -/
inductive RoleChange.Drops (role : String) (p : Principal) : RoleChange → Prop
  | dropMember : Drops role p (.dropMember role p.text)
  | removeMember : Drops role p (.removeMember role p.text)

namespace Contents

/-- The contents with a role of the name, which is new if there was none. -/
def withRole (contents : Contents) (role : String) : Contents :=
  { contents with
    roles := if contents.roles.contains role then contents.roles
      else contents.roles.insert role ⟨role, .empty⟩ }

/-- What a writing call answers when it succeeds, and what the contents are then. -/
inductive Effect (id : StoreId) (contents : Contents) : Call → Reply → Contents → Prop
  | createObject {call : Call} {className : String} :
      call.creates? = some className → contents.hasClass className = true →
        Effect id contents call (.object (.managed id className ⟨contents.nextKey⟩))
          { contents with
            objects := contents.objects.insert ⟨className, ⟨contents.nextKey⟩⟩ .empty
            nextKey := contents.nextKey + 1 }
  | deleteObject {object : ObjectRef} :
      object.storeId = some id →
        Effect id contents (.deleteObject object) (.flag (contents.objects.contains object.id))
          { contents with objects := contents.objects.erase object.id }
  | grantOnStore {role : String} {capabilities : CapabilitySet} :
      Effect id contents (.grantOnStore role capabilities) .done
        { contents.withRole role with
          realm := ⟨contents.realm.grants.grant ⟨role, capabilities⟩⟩ }
  | grantOnClass {className role : String} {capabilities : CapabilitySet} {kept : ClassGrants} :
      contents.classes.get? className = some kept →
        Effect id contents (.grantOnClass className role capabilities) .done
          { contents.withRole role with
            classes := contents.classes.insert className
              { kept with grants := kept.grants.grant ⟨role, capabilities⟩ } }
  | grantOnObject {object : ObjectRef} {role : String} {capabilities : CapabilitySet}
      {grants : GrantList} :
      object.storeId = some id → contents.objects.get? object.id = some grants →
        Effect id contents (.grantOnObject object role capabilities) .done
          { contents.withRole role with
            objects := contents.objects.insert object.id (grants.grant ⟨role, capabilities⟩) }
  | createRole {change : RoleChange} {role : String} :
      change.creates? = some role → contents.roles.contains role = false →
        Effect id contents (.request (.change change)) (.role ⟨role, .empty⟩)
          (contents.withRole role)
  | recordPrincipal {p : Principal} :
      Effect id contents (.request (.change (.recordPrincipal p.text))) .done
        { contents with principals := contents.principals.insert p }
  | addMember {role : String} {p : Principal} {found : Role} :
      contents.roles.get? role = some found →
        Effect id contents (.request (.change (.addMember role p.text))) .done
          { contents with
            roles := contents.roles.insert role (found.insertMember p).2
            principals := contents.principals.insert p }
  | insertMember {role : String} {p : Principal} {found : Role} :
      contents.roles.get? role = some found →
        Effect id contents (.request (.change (.insertMember role p.text)))
          (.flag (found.insertMember p).1)
          { contents with roles := contents.roles.insert role (found.insertMember p).2 }
  | removeMember {change : RoleChange} {role : String} {p : Principal} {found : Role} :
      change.Drops role p → contents.roles.get? role = some found →
        Effect id contents (.request (.change change)) (.flag (found.removeMember p).1)
          { contents with roles := contents.roles.insert role (found.removeMember p).2 }

/-! ## The steps of a change that succeed -/

section Steps

variable {contents contents' : Contents}

theorem requireStore_eq_ok_iff {object : ObjectRef} {id : StoreId} :
    object.requireStore id = .ok () ↔ object.storeId = some id := by
  unfold ObjectRef.requireStore
  cases object.storeId with
  | none => simp
  | some owner => by_cases h : owner = id <;> simp [h]

theorem grant_of_ofName {role : String} {capabilities : CapabilitySet} {g : Grant}
    (h : Grant.ofName role capabilities = .ok g) : g = ⟨role, capabilities⟩ :=
  (Grant.ofName_eq_ok_iff.1 h).1

theorem eq_of_createObject {className : String} {key : ObjectKey}
    (h : (createObject className).apply contents = (.ok key, contents')) :
    contents.hasClass className = true ∧ key = ⟨contents.nextKey⟩ ∧
      contents' = { contents with
        objects := contents.objects.insert ⟨className, ⟨contents.nextKey⟩⟩ .empty
        nextKey := contents.nextKey + 1 } := by
  cases hclass : contents.hasClass className with
  | false => simp [createObject, Action.apply_bind, hclass] at h
  | true => exact ⟨rfl, by simpa [createObject, Action.apply_bind, hclass] using h.symm⟩

@[simp] theorem classes_withRole (contents : Contents) (role : String) :
    (contents.withRole role).classes = contents.classes := rfl

@[simp] theorem realm_withRole (contents : Contents) (role : String) :
    (contents.withRole role).realm = contents.realm := rfl

@[simp] theorem objects_withRole (contents : Contents) (role : String) :
    (contents.withRole role).objects = contents.objects := rfl

@[simp] theorem nextKey_withRole (contents : Contents) (role : String) :
    (contents.withRole role).nextKey = contents.nextKey := rfl

theorem withRole_of_contains {role : String} (h : contents.roles.contains role = true) :
    contents.withRole role = contents := by
  simp [withRole, h]

theorem withRole_of_not_contains {role : String} (h : contents.roles.contains role = false) :
    contents.withRole role =
      { contents with roles := contents.roles.insert role ⟨role, .empty⟩ } := by
  simp [withRole, h]

theorem get?_roles_withRole (contents : Contents) (role other : String) :
    (contents.withRole role).roles.get? other =
      if other = role then some ((contents.roles.get? role).getD ⟨role, .empty⟩)
      else contents.roles.get? other := by
  cases hfound : contents.roles.get? role with
  | some found =>
    rw [withRole_of_contains (SortedMap.contains_of_get? hfound)]
    split
    · next heq => rw [heq, hfound, Option.getD_some]
    · rfl
  | none =>
    have hnew : contents.roles.contains role = false := by
      rw [SortedMap.contains, hfound, Option.isSome_none]
    rw [withRole_of_not_contains hnew, SortedMap.get?_insert, Option.getD_none]

theorem contains_roles_withRole (contents : Contents) (role other : String) :
    (contents.withRole role).roles.contains other =
      (decide (other = role) || contents.roles.contains other) := by
  rw [SortedMap.contains, get?_roles_withRole]
  by_cases heq : other = role <;> simp [heq, SortedMap.contains]

theorem eq_of_ensureRole {role : String}
    (h : (ensureRole role).apply contents = (.ok ⟨⟩, contents')) :
    contents' = contents.withRole role := by
  cases hrole : contents.roles.contains role with
  | true =>
    rw [withRole_of_contains hrole]
    simpa [ensureRole, Action.apply_bind, hrole] using h.symm
  | false =>
    rw [withRole_of_not_contains hrole]
    rcases hname : Role.ofName role with error | created
    · simp [ensureRole, Action.apply_bind, hrole, hname] at h
    · obtain ⟨rfl, -⟩ := Role.ofName_eq_ok_iff.1 hname
      simpa [ensureRole, Action.apply_bind, hrole, hname, SortedMap.contains_insert] using h.symm

/-- A role with a name can always be made sure of. -/
theorem apply_ensureRole_of_named {role : String} (h : Text.isBlank role = false) :
    (ensureRole role).apply contents = (.ok ⟨⟩, contents.withRole role) := by
  cases hrole : contents.roles.contains role with
  | true =>
    rw [withRole_of_contains hrole]
    simp [ensureRole, Action.apply_bind, hrole]
  | false =>
    have hname : Role.ofName role = .ok ⟨role, .empty⟩ := Role.ofName_eq_ok_iff.2 ⟨rfl, h⟩
    rw [withRole_of_not_contains hrole]
    simp [ensureRole, Action.apply_bind, hrole, hname, SortedMap.contains_insert]

theorem eq_of_grantOnStore {g : Grant}
    (h : (grantOnStore g).apply contents = (.ok ⟨⟩, contents')) :
    contents' = { contents.withRole g.role with realm := ⟨contents.realm.grants.grant g⟩ } := by
  obtain ⟨_, between, hrole, h⟩ := Action.apply_bind_eq_ok_iff.1 h
  rw [Action.apply_modify] at h
  rw [← (Prod.mk.inj h).2, eq_of_ensureRole hrole]
  rfl

theorem eq_of_grantOnClass {className : String} {g : Grant}
    (h : (grantOnClass className g).apply contents = (.ok ⟨⟩, contents')) :
    ∃ kept, contents.classes.get? className = some kept ∧
      contents' = { contents.withRole g.role with
        classes := contents.classes.insert className
          { kept with grants := kept.grants.grant g } } := by
  cases hkept : contents.classes.get? className with
  | none => simp [grantOnClass, Action.apply_bind, hasClass, SortedMap.contains, hkept] at h
  | some kept =>
    have hclass : contents.hasClass className = true := SortedMap.contains_of_get? hkept
    rcases hrole : (ensureRole g.role).apply contents with ⟨error | _, between⟩
    · simp [grantOnClass, Action.apply_bind, hclass, hrole] at h
    · -- The class is still there, as making sure of the role leaves the classes alone.
      rw [eq_of_ensureRole hrole] at hrole
      refine ⟨kept, rfl, ?_⟩
      simpa [grantOnClass, Action.apply_bind, hclass, hrole, hkept] using h.symm

theorem eq_of_grantOnObject {id : ObjectId} {g : Grant}
    (h : (grantOnObject id g).apply contents = (.ok ⟨⟩, contents')) :
    ∃ grants, contents.objects.get? id = some grants ∧
      contents' = { contents.withRole g.role with
        objects := contents.objects.insert id (grants.grant g) } := by
  cases hgrants : contents.objects.get? id with
  | none => simp [grantOnObject, Action.apply_bind, SortedMap.contains, hgrants] at h
  | some grants =>
    have hobject : contents.objects.contains id = true := SortedMap.contains_of_get? hgrants
    rcases hrole : (ensureRole g.role).apply contents with ⟨error | _, between⟩
    · simp [grantOnObject, Action.apply_bind, hobject, hrole] at h
    · rw [eq_of_ensureRole hrole] at hrole
      refine ⟨grants, rfl, ?_⟩
      simpa [grantOnObject, Action.apply_bind, hobject, hrole, hgrants] using h.symm

theorem eq_of_createRole {role : String} {filed : Role}
    (h : (do fileRole (← Role.ofName role) : Action Contents Role).apply contents =
      (.ok filed, contents')) :
    contents.roles.contains role = false ∧ filed = ⟨role, .empty⟩ ∧
      contents' = contents.withRole role := by
  obtain ⟨created, hname, h⟩ := Action.apply_lift_bind_eq_ok_iff.1 h
  obtain ⟨rfl, -⟩ := Role.ofName_eq_ok_iff.1 hname
  cases hrole : contents.roles.contains role with
  | true => simp [fileRole, Action.apply_bind, hrole] at h
  | false =>
    rw [withRole_of_not_contains hrole]
    exact ⟨rfl, by simpa [fileRole, Action.apply_bind, hrole] using h.symm⟩

theorem eq_of_changeRole {role : String} {change : Role → Bool × Role} {answer : Bool}
    (h : (changeRole role change).apply contents = (.ok answer, contents')) :
    ∃ found, contents.roles.get? role = some found ∧ answer = (change found).1 ∧
      contents' = { contents with roles := contents.roles.insert role (change found).2 } := by
  cases hfound : contents.roles.get? role with
  | none => simp [changeRole, Action.apply_bind, hfound] at h
  | some found =>
    rw [apply_changeRole hfound change] at h
    obtain ⟨hanswer, rfl⟩ := Prod.mk.inj h
    exact ⟨found, rfl, (Except.ok.inj hanswer).symm, rfl⟩

theorem eq_of_requireRole {role : String}
    (h : (requireRole role).apply contents = (.ok ⟨⟩, contents')) : contents' = contents := by
  cases hrole : contents.roles.contains role with
  | false => simp [requireRole, Action.apply_bind, hrole] at h
  | true => simpa [requireRole, Action.apply_bind, hrole] using h.symm

end Steps

/-! ## All writing calls -/

section Calls

variable {contents contents' : Contents} {reply : Reply}

theorem effect_of_roleChange (id : StoreId) {change : RoleChange}
    (h : change.change.apply contents = (.ok reply, contents')) :
    Effect id contents (.request (.change change)) reply contents' := by
  cases change with
  | addRole role | createRole role =>
    rw [RoleChange.change, ← bind_assoc] at h
    obtain ⟨filed, hfile, rfl⟩ := Action.apply_return_eq_ok_iff.1 h
    obtain ⟨hnew, rfl, rfl⟩ := eq_of_createRole hfile
    exact .createRole rfl hnew
  | addMember role principal =>
    obtain ⟨p, hparse, h⟩ := Action.apply_lift_bind_eq_ok_iff.1 h
    obtain ⟨_, _, hrole, h⟩ := Action.apply_bind_eq_ok_iff.1 h
    obtain ⟨_, recorded, hrecord, h⟩ := Action.apply_bind_eq_ok_iff.1 h
    obtain ⟨answer, hinsert, rfl⟩ := Action.apply_return_eq_ok_iff.1 h
    obtain ⟨found, hfound, -, rfl⟩ := eq_of_changeRole hinsert
    rw [eq_of_requireRole hrole] at hrecord
    obtain ⟨-, rfl⟩ := Prod.mk.inj hrecord
    rw [Principal.parse_eq_ok_iff.1 hparse]
    exact .addMember hfound
  | dropMember role principal =>
    obtain ⟨p, hparse, h⟩ := Action.apply_lift_bind_eq_ok_iff.1 h
    obtain ⟨_, _, hrole, h⟩ := Action.apply_bind_eq_ok_iff.1 h
    obtain ⟨answer, hremove, rfl⟩ := Action.apply_return_eq_ok_iff.1 h
    rw [eq_of_requireRole hrole] at hremove
    obtain ⟨found, hfound, rfl, rfl⟩ := eq_of_changeRole hremove
    rw [Principal.parse_eq_ok_iff.1 hparse]
    exact .removeMember .dropMember hfound
  | recordPrincipal principal =>
    obtain ⟨p, hparse, h⟩ := Action.apply_lift_bind_eq_ok_iff.1 h
    obtain ⟨_, hrecord, rfl⟩ := Action.apply_return_eq_ok_iff.1 h
    obtain ⟨-, rfl⟩ := Prod.mk.inj hrecord
    rw [Principal.parse_eq_ok_iff.1 hparse]
    exact .recordPrincipal
  | insertMember role principal =>
    obtain ⟨p, hparse, h⟩ := Action.apply_lift_bind_eq_ok_iff.1 h
    obtain ⟨answer, hinsert, rfl⟩ := Action.apply_return_eq_ok_iff.1 h
    obtain ⟨found, hfound, rfl, rfl⟩ := eq_of_changeRole hinsert
    rw [Principal.parse_eq_ok_iff.1 hparse]
    exact .insertMember hfound
  | removeMember role principal =>
    obtain ⟨p, hparse, h⟩ := Action.apply_lift_bind_eq_ok_iff.1 h
    obtain ⟨answer, hremove, rfl⟩ := Action.apply_return_eq_ok_iff.1 h
    obtain ⟨found, hfound, rfl, rfl⟩ := eq_of_changeRole hremove
    rw [Principal.parse_eq_ok_iff.1 hparse]
    exact .removeMember .removeMember hfound

/-- **What a writing call that succeeds has done**: its change leads from the contents to those of
its effect, with the answer of the effect. -/
theorem effect_of_call {id : StoreId} {call : Call} {change : Action Contents Reply}
    (hcall : call.change? id = some change)
    (h : change.apply contents = (.ok reply, contents')) :
    Effect id contents call reply contents' := by
  cases call with
  | begin | commit | cancel | close => cases hcall
  | createObject className | createTyped type =>
    cases hcall
    obtain ⟨key, hcreate, rfl⟩ := Action.apply_return_eq_ok_iff.1 h
    obtain ⟨hclass, rfl, rfl⟩ := eq_of_createObject hcreate
    exact .createObject rfl hclass
  | deleteObject object =>
    cases hcall
    obtain ⟨_, howned, h⟩ := Action.apply_lift_bind_eq_ok_iff.1 h
    obtain ⟨found, hdelete, rfl⟩ := Action.apply_return_eq_ok_iff.1 h
    obtain ⟨hfound, rfl⟩ := Prod.mk.inj hdelete
    rw [← Except.ok.inj hfound]
    exact .deleteObject (requireStore_eq_ok_iff.1 howned)
  | grantOnStore role capabilities =>
    cases hcall
    obtain ⟨g, hg, h⟩ := Action.apply_lift_bind_eq_ok_iff.1 h
    obtain ⟨_, hgrant, rfl⟩ := Action.apply_return_eq_ok_iff.1 h
    rw [eq_of_grantOnStore hgrant, grant_of_ofName hg]
    exact .grantOnStore
  | grantOnClass className role capabilities =>
    cases hcall
    obtain ⟨g, hg, h⟩ := Action.apply_lift_bind_eq_ok_iff.1 h
    obtain ⟨_, hgrant, rfl⟩ := Action.apply_return_eq_ok_iff.1 h
    obtain ⟨kept, hkept, rfl⟩ := eq_of_grantOnClass hgrant
    rw [grant_of_ofName hg]
    exact .grantOnClass hkept
  | grantOnObject object role capabilities =>
    cases hcall
    obtain ⟨_, howned, h⟩ := Action.apply_lift_bind_eq_ok_iff.1 h
    obtain ⟨g, hg, h⟩ := Action.apply_lift_bind_eq_ok_iff.1 h
    obtain ⟨_, hgrant, rfl⟩ := Action.apply_return_eq_ok_iff.1 h
    obtain ⟨grants, hgrants, rfl⟩ := eq_of_grantOnObject hgrant
    rw [grant_of_ofName hg]
    exact .grantOnObject (requireStore_eq_ok_iff.1 howned) hgrants
  | request request =>
    cases request with
    | query query => cases hcall
    | change change =>
      cases hcall
      exact effect_of_roleChange id h

/-- The schema of a store stays as it is. -/
theorem Effect.hasClass_eq {id : StoreId} {call : Call}
    (h : Effect id contents call reply contents') (className : String) :
    contents'.hasClass className = contents.hasClass className := by
  cases h with
  | grantOnClass hkept => exact SortedMap.contains_insert_of_get? hkept className
  | createObject | deleteObject | grantOnStore | grantOnObject | createRole | recordPrincipal
  | addMember | insertMember | removeMember => rfl

end Calls

end Contents

/-! ## Writing calls of a store -/

namespace Store

variable {store store' : Store} {handle : HandleId} {connection : Connection} {caller : Thread}
  {call : Call} {reply : Reply}

/-- A writing call that succeeds had a transaction to work in, and left its effect there. -/
theorem effect_of_step (hconnection : store.connection? handle = some connection)
    {change : Action Contents Reply} (hcall : call.change? connection.storeId = some change)
    (hstep : store.step (.call handle caller call) = (.called (.ok reply), store')) :
    ∃ contents contents', connection.Writes caller contents ∧
      contents.Effect store.id call reply contents' ∧
      store' = store.update handle (connection.withPending contents') := by
  by_cases hwrites : ∃ contents, connection.Writes caller contents
  · obtain ⟨contents, hwrites⟩ := hwrites
    rcases hrun : change.apply contents with ⟨result, contents'⟩
    rw [step_call hconnection (Connection.apply_write hwrites hcall hrun)] at hstep
    cases hstep
    have heffect := Contents.effect_of_call hcall hrun
    rw [storeId_of_connection? hconnection] at heffect
    exact ⟨contents, contents', hwrites, heffect, rfl⟩
  · obtain ⟨error, hrefuse⟩ := Connection.refuses_call (not_exists.1 hwrites) hcall
    rw [step_call hconnection hrefuse] at hstep
    cases hstep

end Store

end StoreAccess
