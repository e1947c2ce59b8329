import StoreAccess.Proofs.Steps
import StoreAccess.Store.Basic

/-!
# Calls that write

A call that writes makes a change to the contents that the transaction of its handle works on.
`Call.change?` names that change in terms of the contents alone.

* `performs_call`: in a transaction, the call does what its change does to the contents, also
  where the change fails, and answers the same.
* `refuses_call`: without a transaction, or through a handle that does not serve the caller, the
  call fails and changes nothing.
-/

namespace StoreAccess

/-! ## The changes that calls ask for -/

/-- The object is one of the store, as far as the reference says. -/
def ObjectRef.requireStore (object : ObjectRef) (id : StoreId) : Except AccessError Unit :=
  match object.storeId with
  | none => .error .unmanagedObject
  | some owner => if owner = id then .ok () else .error .crossStoreReference

/-- What a change of members asks of the contents before it begins. -/
def Contents.requireRole (role : String) : Action Contents Unit := do
  if (← get).roles.contains role then return else throw (.missingRole role)

/-- What a change of roles does to the contents. -/
def RoleChange.change : RoleChange → Action Contents Reply
  | .addRole role | .createRole role => do
    return .role (← Contents.fileRole (← Role.ofName role))
  | .addMember role principal => do
    let p ← Principal.parse principal
    Contents.requireRole role
    Contents.recordPrincipal p
    let _ ← Contents.insertMember role p
    return .done
  | .dropMember role principal => do
    let p ← Principal.parse principal
    Contents.requireRole role
    return .flag (← Contents.removeMember role p)
  | .recordPrincipal principal => do
    Contents.recordPrincipal (← Principal.parse principal)
    return .done
  | .insertMember role principal => do
    return .flag (← Contents.insertMember role (← Principal.parse principal))
  | .removeMember role principal => do
    return .flag (← Contents.removeMember role (← Principal.parse principal))

/-- What a call does to the contents of the transaction it is made in, for the calls that write
in one. -/
def Call.change? (id : StoreId) : Call → Option (Action Contents Reply)
  | .begin | .commit | .cancel | .close | .request (.query _) => none
  | .createObject className => some do
    return .object (.managed id className (← Contents.createObject className))
  | .createTyped type => some do
    return .object (.managed id type.className (← Contents.createObject type.className))
  | .deleteObject object => some do
    object.requireStore id
    return .flag (← Contents.deleteObject object.id)
  | .grantOnStore role capabilities => some do
    Contents.grantOnStore (← Grant.ofName role capabilities)
    return .done
  | .grantOnClass className role capabilities => some do
    Contents.grantOnClass className (← Grant.ofName role capabilities)
    return .done
  | .grantOnObject object role capabilities => some do
    object.requireStore id
    Contents.grantOnObject object.id (← Grant.ofName role capabilities)
    return .done
  | .request (.change change) => some change.change

namespace Connection

/-! ## Writing -/

/-- The handle serves the caller, and these are the contents its transaction works on. -/
structure Writes (connection : Connection) (caller : Thread) (contents : Contents) : Prop where
  usable : connection.requireUsable caller = .ok ()
  pending : connection.handle.pending = some contents

/-- The connection with other contents in its transaction. -/
def withPending (connection : Connection) (contents : Contents) : Connection :=
  { connection with handle := { connection.handle with pending := some contents } }

/-- The action does to the connection what the change does to the contents of its transaction. -/
def Performs {α : Type} (connection : Connection) (contents : Contents)
    (action : Action Connection α) (change : Action Contents α) : Prop :=
  action.apply connection =
    ((change.apply contents).1, connection.withPending (change.apply contents).2)

section Performs

variable {connection : Connection} {caller : Thread} {contents : Contents} {α β : Type}

theorem Writes.withPending (h : connection.Writes caller contents) (contents' : Contents) :
    (connection.withPending contents').Writes caller contents' :=
  ⟨h.usable, rfl⟩

theorem Writes.withPending_eq (h : connection.Writes caller contents) :
    connection.withPending contents = connection := by
  simp [Connection.withPending, ← h.pending]

theorem performs_write (h : connection.Writes caller contents) (change : Action Contents α) :
    Performs connection contents (write caller change) change := by
  unfold Performs write
  simp [Action.apply_bind, h.usable, h.pending, withPending]

theorem performs_lift (h : connection.Writes caller contents) (result : Except AccessError α) :
    Performs connection contents (liftM result) (liftM result) := by
  simp [Performs, h.withPending_eq]

theorem performs_pure (h : connection.Writes caller contents) (a : α) :
    Performs connection contents (pure a) (pure a) :=
  performs_lift h (.ok a)

theorem performs_bind {action : Action Connection α} {change : Action Contents α}
    {f : α → Action Connection β} {g : α → Action Contents β}
    (h : Performs connection contents action change)
    (hf : ∀ a contents', Performs (connection.withPending contents') contents' (f a) (g a)) :
    Performs connection contents (action >>= f) (change >>= g) := by
  unfold Performs at h ⊢
  rw [Action.apply_bind, h, Action.apply_bind]
  rcases change.apply contents with ⟨error | a, contents'⟩
  · rfl
  · exact hf a contents'

theorem performs_get {f : Connection → Action Connection α} {change : Action Contents α}
    (h : Performs connection contents (f connection) change) :
    Performs connection contents (get >>= f) change := h

theorem performs_return (h : connection.Writes caller contents) {action : Action Connection α}
    {change : Action Contents α} (haction : Performs connection contents action change)
    (f : α → β) :
    Performs connection contents (action >>= fun a => pure (f a))
      (change >>= fun a => pure (f a)) :=
  performs_bind haction fun a contents' => performs_pure (h.withPending contents') (f a)

theorem performs_lift_write (h : connection.Writes caller contents)
    (result : Except AccessError α) (change : α → Action Contents β) :
    Performs connection contents (liftM result >>= fun a => write caller (change a))
      (liftM result >>= change) :=
  performs_bind (performs_lift h result) fun a contents' =>
    performs_write (h.withPending contents') (change a)

/-! ## The operations on objects and grants -/

theorem performs_createObject (h : connection.Writes caller contents) (className : String) :
    Performs connection contents (createObject caller className)
      (do return .managed connection.storeId className (← Contents.createObject className)) := by
  refine performs_bind (performs_write h _) fun key contents' => ?_
  exact performs_get (performs_pure (h.withPending contents') _)

/-- The object that is created for an object type can be viewed as one of the type. -/
theorem performs_createTyped (h : connection.Writes caller contents) (type : ObjectType) :
    Performs connection contents (do return (← createTyped caller type).object)
      (do
        let key ← Contents.createObject type.className
        return .managed connection.storeId type.className key) := by
  simp only [createTyped, createObject, bind_assoc, pure_bind]
  refine performs_bind (performs_write h _) fun key contents' => performs_get ?_
  have htype : TypedObject.ofRef type (.managed connection.storeId type.className key) =
      .ok ⟨.managed connection.storeId type.className key, rfl⟩ := by
    rw [← TypedObject.ofRef_object]
  have hid : (connection.withPending contents').storeId = connection.storeId := rfl
  rw [hid, htype]
  exact performs_pure (h.withPending contents') _

theorem performs_deleteObject (h : connection.Writes caller contents) (object : ObjectRef) :
    Performs connection contents (deleteObject caller object)
      (do object.requireStore connection.storeId; Contents.deleteObject object.id) :=
  performs_get (performs_lift_write h (object.requireStore connection.storeId) fun _ =>
    Contents.deleteObject object.id)

theorem performs_grantOnObject (h : connection.Writes caller contents) (object : ObjectRef)
    (role : String) (capabilities : CapabilitySet) :
    Performs connection contents (grantOnObject caller object role capabilities)
      (do
        object.requireStore connection.storeId
        Contents.grantOnObject object.id (← Grant.ofName role capabilities)) := by
  refine performs_get (performs_bind (performs_lift h _) fun _ contents' => ?_)
  exact performs_lift_write (h.withPending contents') _ _

/-! ## The operations on roles -/

theorem requireWriting_eq (h : connection.Writes caller contents) :
    connection.view.requireWriting caller = .ok () := by
  have husable : connection.view.requireUsable caller = .ok () := h.usable
  have hin : connection.view.inTransaction = true := by simp [view, h.pending]
  simp [AccessView.requireWriting, husable, hin]

theorem visible_eq (h : connection.Writes caller contents) : connection.visible = contents := by
  simp [visible, h.pending]

theorem findRole_eq (h : connection.Writes caller contents) (role : String) :
    connection.view.findRole role = .ok (contents.roles.get? role) := by
  simp [view, visible_eq h]

/-- Asking before a change of members is reading the identifier and looking for the role. -/
theorem performs_requireMemberChange (h : connection.Writes caller contents)
    (role principal : String) :
    Performs connection contents
      ((backend caller).ask (·.requireMemberChange caller role principal))
      (do
        let p ← Principal.parse principal
        Contents.requireRole role
        return p) := by
  have hview : (backend caller).view connection = connection.view := rfl
  unfold Performs Contents.requireRole
  rw [RoleBackend.apply_ask, hview, AccessView.requireMemberChange, requireWriting_eq h, ok_bind]
  rcases hparse : Principal.parse principal with error | p
  · simp [Action.apply_bind, h.withPending_eq]
  · rw [AccessView.requireRole, findRole_eq h]
    cases hfound : contents.roles.get? role <;>
      simp [Action.apply_bind, SortedMap.contains, hfound, h.withPending_eq]

theorem performs_addMember (h : connection.Writes caller contents) (role principal : String) :
    Performs connection contents ((backend caller).change caller (.addMember role principal))
      (RoleChange.addMember role principal).change := by
  have hchange := performs_bind (performs_requireMemberChange h role principal)
    fun p contents₁ => performs_bind
      (performs_write (h.withPending contents₁) (Contents.recordPrincipal p)) fun _ contents₂ =>
        performs_return ((h.withPending contents₁).withPending contents₂)
          (performs_write ((h.withPending contents₁).withPending contents₂)
            (Contents.insertMember role p)) fun _ => Reply.done
  simpa only [RoleBackend.change, RoleBackend.addMember, RoleChange.change, backend, bind_assoc,
    pure_bind] using hchange

theorem performs_dropMember (h : connection.Writes caller contents) (role principal : String) :
    Performs connection contents ((backend caller).change caller (.dropMember role principal))
      (RoleChange.dropMember role principal).change := by
  have hchange := performs_bind (performs_requireMemberChange h role principal)
    fun p contents' => performs_return (h.withPending contents')
      (performs_write (h.withPending contents') (Contents.removeMember role p)) Reply.flag
  simpa only [RoleBackend.change, RoleBackend.dropMember, RoleChange.change, backend, bind_assoc,
    pure_bind] using hchange

theorem performs_createRole (h : connection.Writes caller contents) (role : String) :
    Performs connection contents ((backend caller).createRole role)
      (do Contents.fileRole (← Role.ofName role)) :=
  performs_lift_write h (Role.ofName role) Contents.fileRole

theorem performs_addRole (h : connection.Writes caller contents) (role : String) :
    Performs connection contents ((backend caller).addRole caller role)
      (do Contents.fileRole (← Role.ofName role)) := by
  have hask : ((backend caller).view connection).requireWriting caller = .ok () :=
    requireWriting_eq h
  unfold Performs
  rw [RoleBackend.addRole, Action.apply_bind, RoleBackend.apply_ask, hask]
  exact performs_createRole h role

theorem performs_change (h : connection.Writes caller contents) (change : RoleChange) :
    Performs connection contents ((backend caller).change caller change) change.change := by
  cases change with
  | addRole role =>
    have := performs_return h (performs_addRole h role) Reply.role
    simpa only [RoleBackend.change, RoleChange.change, bind_assoc] using this
  | createRole role =>
    have := performs_return h (performs_createRole h role) Reply.role
    simpa only [RoleBackend.change, RoleChange.change, bind_assoc] using this
  | addMember role principal => exact performs_addMember h role principal
  | dropMember role principal => exact performs_dropMember h role principal
  | recordPrincipal principal =>
    exact performs_bind (performs_lift h (Principal.parse principal)) fun p contents' =>
      performs_return (h.withPending contents')
        (performs_write (h.withPending contents') (Contents.recordPrincipal p)) fun _ => Reply.done
  | insertMember role principal =>
    exact performs_bind (performs_lift h (Principal.parse principal)) fun p contents' =>
      performs_return (h.withPending contents')
        (performs_write (h.withPending contents') (Contents.insertMember role p)) Reply.flag
  | removeMember role principal =>
    exact performs_bind (performs_lift h (Principal.parse principal)) fun p contents' =>
      performs_return (h.withPending contents')
        (performs_write (h.withPending contents') (Contents.removeMember role p)) Reply.flag

/-- **A writing call in a transaction** does what its change does to the contents of the
transaction, and gives the same answer. -/
theorem performs_call (h : connection.Writes caller contents) {call : Call}
    {change : Action Contents Reply} (hcall : call.change? connection.storeId = some change) :
    Performs connection contents (perform caller call) change := by
  cases call with
  | begin | commit | cancel | close => cases hcall
  | createObject className =>
    cases hcall
    have := performs_return h (performs_createObject h className) Reply.object
    simpa only [perform, bind_assoc, pure_bind] using this
  | createTyped type =>
    cases hcall
    have := performs_return h (performs_createTyped h type) Reply.object
    simpa only [perform, bind_assoc, pure_bind] using this
  | deleteObject object =>
    cases hcall
    have := performs_return h (performs_deleteObject h object) Reply.flag
    simpa only [perform, bind_assoc] using this
  | grantOnStore role capabilities =>
    cases hcall
    have := performs_return h (performs_lift_write h (Grant.ofName role capabilities)
      Contents.grantOnStore) fun _ => Reply.done
    simpa only [perform, grantOnStore, bind_assoc] using this
  | grantOnClass className role capabilities =>
    cases hcall
    have := performs_return h (performs_lift_write h (Grant.ofName role capabilities)
      (Contents.grantOnClass className)) fun _ => Reply.done
    simpa only [perform, grantOnClass, bind_assoc] using this
  | grantOnObject object role capabilities =>
    cases hcall
    have := performs_return h (performs_grantOnObject h object role capabilities) fun _ =>
      Reply.done
    simpa only [perform, bind_assoc] using this
  | request request =>
    cases request with
    | query query => cases hcall
    | change change =>
      cases hcall
      exact performs_change h change

end Performs

/-! ## Writing without a transaction -/

/-- The action fails and leaves the connection as it is. -/
def Refuses {α : Type} (connection : Connection) (action : Action Connection α) : Prop :=
  ∃ error, action.apply connection = (.error error, connection)

section Refuses

variable {connection : Connection} {caller : Thread} {α β : Type}

/-- What a writing call meets outside of a transaction. -/
theorem refused_of_not_writes (h : ∀ contents, ¬ connection.Writes caller contents) :
    (∃ error, connection.requireUsable caller = .error error) ∨
      connection.requireUsable caller = .ok () ∧ connection.handle.pending = none := by
  rcases husable : connection.requireUsable caller with error | _
  · exact .inl ⟨error, rfl⟩
  · cases hpending : connection.handle.pending with
    | none => exact .inr ⟨rfl, rfl⟩
    | some contents => exact absurd ⟨husable, hpending⟩ (h contents)

theorem refuses_write (h : ∀ contents, ¬ connection.Writes caller contents)
    (change : Action Contents α) : Refuses connection (write caller change) := by
  rcases refused_of_not_writes h with ⟨error, husable⟩ | ⟨husable, hpending⟩
  · exact ⟨error, by simp [write, Action.apply_bind, husable]⟩
  · exact ⟨.notInTransaction, by simp [write, Action.apply_bind, husable, hpending]⟩

theorem refuses_bind {action : Action Connection α} (h : Refuses connection action)
    (f : α → Action Connection β) : Refuses connection (action >>= f) := by
  obtain ⟨error, h⟩ := h
  exact ⟨error, Action.apply_bind_of_error h f⟩

theorem refuses_lift_bind (result : Except AccessError α) {f : α → Action Connection β}
    (h : ∀ a, Refuses connection (f a)) : Refuses connection (liftM result >>= f) := by
  cases result with
  | error error => exact ⟨error, rfl⟩
  | ok a => exact h a

theorem refuses_get_bind {f : Connection → Action Connection α}
    (h : Refuses connection (f connection)) : Refuses connection (get >>= f) := h

/-- Writing needs the handle to serve the caller first. -/
theorem requireWriting_of_unusable {error : AccessError}
    (h : connection.requireUsable caller = .error error) :
    connection.view.requireWriting caller = .error error := by
  have husable : connection.view.requireUsable caller = .error error := h
  rw [AccessView.requireWriting, husable, error_bind]

theorem requireWriting_eq_error (h : ∀ contents, ¬ connection.Writes caller contents) :
    ∃ error, connection.view.requireWriting caller = .error error := by
  rcases refused_of_not_writes h with ⟨error, husable⟩ | ⟨husable, hpending⟩
  · exact ⟨error, requireWriting_of_unusable husable⟩
  · have husable : connection.view.requireUsable caller = .ok () := husable
    have hin : connection.view.inTransaction = false := by simp [view, hpending]
    exact ⟨.notInTransaction, by simp [AccessView.requireWriting, husable, hin]⟩

theorem refuses_change (h : ∀ contents, ¬ connection.Writes caller contents)
    (change : RoleChange) : Refuses connection ((backend caller).change caller change) := by
  have hcreate : ∀ role, Refuses connection ((backend caller).createRole role) := fun role =>
    refuses_lift_bind _ fun _ => refuses_write h _
  obtain ⟨error, hwriting⟩ := requireWriting_eq_error h
  have hwriting : ((backend caller).view connection).requireWriting caller = .error error :=
    hwriting
  cases change with
  | addRole role =>
    refine refuses_bind (refuses_bind ⟨error, ?_⟩ _) _
    rw [RoleBackend.apply_ask, hwriting]
  | createRole role => exact refuses_bind (hcreate role) _
  | addMember role principal =>
    refine refuses_bind (refuses_bind ⟨error, ?_⟩ _) _
    rw [RoleBackend.apply_ask, AccessView.requireMemberChange, hwriting, error_bind]
  | dropMember role principal =>
    refine refuses_bind (refuses_bind ⟨error, ?_⟩ _) _
    rw [RoleBackend.apply_ask, AccessView.requireMemberChange, hwriting, error_bind]
  | recordPrincipal principal =>
    exact refuses_lift_bind _ fun p =>
      refuses_bind (refuses_write h (Contents.recordPrincipal p)) _
  | insertMember role principal =>
    exact refuses_lift_bind _ fun p =>
      refuses_bind (refuses_write h (Contents.insertMember role p)) _
  | removeMember role principal =>
    exact refuses_lift_bind _ fun p =>
      refuses_bind (refuses_write h (Contents.removeMember role p)) _

/-- **A writing call outside of a transaction**, or one by a caller whom the handle does not
serve, fails and changes nothing. -/
theorem refuses_call (h : ∀ contents, ¬ connection.Writes caller contents) {call : Call}
    {change : Action Contents Reply} (hcall : call.change? connection.storeId = some change) :
    Refuses connection (perform caller call) := by
  have hwrite : ∀ {γ : Type} (change : Action Contents γ),
      Refuses connection (write caller change) := refuses_write h
  cases call with
  | begin | commit | cancel | close => cases hcall
  | createObject className => exact refuses_bind (refuses_bind (hwrite _) _) _
  | createTyped type => exact refuses_bind (refuses_bind (refuses_bind (hwrite _) _) _) _
  | deleteObject object =>
    exact refuses_bind (refuses_get_bind (refuses_lift_bind _ fun _ => hwrite _)) _
  | grantOnStore role capabilities =>
    exact refuses_bind (refuses_lift_bind _ fun _ => hwrite _) _
  | grantOnClass className role capabilities =>
    exact refuses_bind (refuses_lift_bind _ fun _ => hwrite _) _
  | grantOnObject object role capabilities =>
    refine refuses_bind (refuses_get_bind ?_) _
    exact refuses_lift_bind _ fun _ => refuses_lift_bind _ fun _ => hwrite _
  | request request =>
    cases request with
    | query query => cases hcall
    | change change => exact refuses_change h change

end Refuses

end Connection

end StoreAccess
