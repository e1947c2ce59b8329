import StoreAccess.Proofs.Store.Slot

/-!
# Handles that do not serve their caller

A handle serves the thread that opened it, until it is closed. What passes a check of the handle
first is `Guarded`, and refused with one and the same error whatever else it asks for. The other
calls that change anything may be refused for other reasons, and the direct reads are answered;
but only closing goes through.

A handle that is closed is `Retired` for good: a run goes elsewhere as it would without the events
about that handle.

Main statement: `handles_confined`.
-/

namespace StoreAccess

/-! ## What the handle is checked for -/

/-- The query is answered only through a handle that serves the caller. -/
inductive Query.Guarded : Query → Prop
  | storePrivileges : Guarded .storePrivileges
  | classPrivileges (target : ClassTarget) : Guarded (.classPrivileges target)
  | objectPrivileges (target : ObjectTarget) : Guarded (.objectPrivileges target)
  | shownRealm : Guarded .shownRealm
  | shownClass (target : ClassTarget) : Guarded (.shownClass target)
  | shownRoles : Guarded .shownRoles
  | lookUpRole (role : String) : Guarded (.lookUpRole role)
  | hasMember (role principal : String) : Guarded (.hasMember role principal)
  | usable : Guarded .usable

/-- The call checks that the handle serves the caller before it looks at anything else. -/
inductive Call.Guarded : Call → Prop
  | begin : Guarded .begin
  | commit : Guarded .commit
  | cancel : Guarded .cancel
  | query {query : Query} : query.Guarded → Guarded (.request (.query query))
  | addRole (role : String) : Guarded (.request (.change (.addRole role)))
  | addMember (role principal : String) : Guarded (.request (.change (.addMember role principal)))
  | dropMember (role principal : String) :
      Guarded (.request (.change (.dropMember role principal)))

theorem Query.Guarded.reply_eq {query : Query} (h : query.Guarded) {view : AccessView}
    {caller : Thread} {error : AccessError} (hrefused : view.requireUsable caller = .error error) :
    view.reply caller query = .error error := by
  cases h with
  | storePrivileges => simp [AccessView.reply, AccessView.storePrivileges, hrefused]
  | classPrivileges => simp [AccessView.reply, AccessView.classPrivileges, hrefused]
  | objectPrivileges => simp [AccessView.reply, AccessView.objectPrivileges, hrefused]
  | shownRealm => simp [AccessView.reply, AccessView.shownRealm, hrefused]
  | shownClass => simp [AccessView.reply, AccessView.shownClass, hrefused]
  | shownRoles => simp [AccessView.reply, AccessView.shownRoles, hrefused]
  | lookUpRole => simp [AccessView.reply, AccessView.lookUpRole, hrefused]
  | hasMember => simp [AccessView.reply, AccessView.hasMember, hrefused]
  | usable => simp [AccessView.reply, hrefused]

namespace Connection

variable {connection : Connection} {caller : Thread} {error : AccessError}

theorem requireMemberChange_of_unusable (h : connection.requireUsable caller = .error error)
    (role principal : String) :
    connection.view.requireMemberChange caller role principal = .error error := by
  rw [AccessView.requireMemberChange, requireWriting_of_unusable h, error_bind]

/-- A guarded call through a handle that does not serve the caller answers just that. -/
theorem apply_of_guarded {call : Call} (hcall : call.Guarded)
    (h : connection.requireUsable caller = .error error) :
    (perform caller call).apply connection = (.error error, connection) := by
  have hview : (backend caller).view connection = connection.view := rfl
  cases hcall with
  | begin => exact apply_begin_of_unusable h
  | commit => simp [perform, commit, Action.apply_bind, h]
  | cancel => simp [perform, cancel, Action.apply_bind, h]
  | query hquery => rw [apply_query, hquery.reply_eq h]
  | addRole role =>
    refine Action.apply_bind_of_error (Action.apply_bind_of_error ?_ _) _
    rw [RoleBackend.apply_ask, hview, requireWriting_of_unusable h]
  | addMember role principal =>
    refine Action.apply_bind_of_error (Action.apply_bind_of_error ?_ _) _
    rw [RoleBackend.apply_ask, hview, requireMemberChange_of_unusable h]
  | dropMember role principal =>
    refine Action.apply_bind_of_error (Action.apply_bind_of_error ?_ _) _
    rw [RoleBackend.apply_ask, hview, requireMemberChange_of_unusable h]

/-- The handle is closed, or the caller is not who opened it. -/
def Denies (connection : Connection) (caller : Thread) : Prop :=
  connection.handle.closed = true ∨ caller ≠ connection.handle.owner

/-- Why the handle does not serve a caller: being closed comes first. -/
def denial (connection : Connection) : AccessError :=
  if connection.handle.closed then .storeClosed else .wrongContext

theorem Denies.requireUsable_eq (h : connection.Denies caller) :
    connection.requireUsable caller = .error connection.denial := by
  unfold denial requireUsable AccessView.requireUsable
  have hclosed : connection.view.closed = connection.handle.closed := rfl
  have howner : connection.view.owner = connection.handle.owner := rfl
  rw [hclosed, howner]
  rcases h with hshut | hforeign
  · rw [if_pos hshut, if_pos hshut]
  · rw [if_pos hforeign]
    split <;> rfl

theorem Denies.not_writes (h : connection.Denies caller) (contents : Contents) :
    ¬ connection.Writes caller contents := by
  intro hwrites
  have husable := hwrites.usable
  rw [h.requireUsable_eq] at husable
  cases husable

/-- A call that is no query and does not close the handle, by a caller whom the handle denies,
fails. -/
theorem Denies.refuses (h : connection.Denies caller) {call : Call} (hclose : call ≠ .close)
    (hquery : ∀ query, call ≠ .request (.query query)) :
    ∃ error, (perform caller call).apply connection = (.error error, connection) := by
  by_cases hguarded : call.Guarded
  · exact ⟨_, apply_of_guarded hguarded h.requireUsable_eq⟩
  · cases hchange : call.change? connection.storeId with
    | some change => exact refuses_call h.not_writes hchange
    | none =>
      -- Of the calls that make no change to the contents, the rest are guarded.
      cases call with
      | begin => exact absurd .begin hguarded
      | commit => exact absurd .commit hguarded
      | cancel => exact absurd .cancel hguarded
      | close => exact absurd rfl hclose
      | request request =>
        cases request with
        | query query => exact absurd rfl (hquery query)
        | change change => cases hchange
      | createObject | createTyped | deleteObject | grantOnStore | grantOnClass | grantOnObject =>
        cases hchange

/-- A call other than closing, by a caller whom the handle denies, leaves the connection as it
is. -/
theorem Denies.keeps (h : connection.Denies caller) {call : Call} (hclose : call ≠ .close) :
    ∃ result, (perform caller call).apply connection = (result, connection) := by
  by_cases hquery : ∃ query, call = .request (.query query)
  · obtain ⟨query, rfl⟩ := hquery
    exact ⟨_, apply_query connection caller query⟩
  · obtain ⟨error, hrefused⟩ := h.refuses hclose (not_exists.1 hquery)
    exact ⟨.error error, hrefused⟩

end Connection

namespace Store

variable {store store' other : Store} {handle : HandleId} {event : Event} {outcome : Outcome}

/-! ## Handles that are closed -/

/-- The handle has been opened on the store, and if it is still live then it is closed and has no
transaction. -/
structure Retired (store : Store) (handle : HandleId) : Prop where
  lt_nextHandle : handle.number < store.nextHandle
  closed : ∀ {found : Handle}, store.handles.get? handle = some found →
    found.closed = true ∧ found.pending = none

/-- The stores are the same, apart from what they keep of the handle. -/
structure SameBut (handle : HandleId) (store other : Store) : Prop where
  id : other.id = store.id
  shared : other.shared = store.shared
  nextHandle : other.nextHandle = store.nextHandle
  get? : ∀ {handle' : HandleId}, handle' ≠ handle →
    other.handles.get? handle' = store.handles.get? handle'

/-- The events that are not about the handle. -/
def elsewhere (handle : HandleId) (events : List Event) : List Event :=
  events.filter fun event => event.handle? ≠ some handle

/-- The outcomes, in a run of the events, of those that are not about the handle. -/
def outcomesElsewhere (handle : HandleId) (events : List Event) (outcomes : List Outcome) :
    List Outcome :=
  ((events.zip outcomes).filter fun p => p.1.handle? ≠ some handle).map Prod.snd

theorem Reachable.retired (h : store.Reachable) {connection : Connection}
    (hconnection : store.connection? handle = some connection)
    (hclosed : connection.handle.closed = true) : store.Retired handle := by
  obtain ⟨holder?, hslot⟩ := h.slot
  have hfound := get?_of_connection? hconnection
  refine ⟨hslot.lt_nextHandle hfound, fun hfound' => ?_⟩
  obtain rfl := Option.some.inj (hfound.symm.trans hfound')
  exact ⟨hclosed, hslot.pending_of_closed hfound hclosed⟩

namespace Retired

variable {connection connection' : Connection} {caller : Thread} {call : Call}
  {result : Except AccessError Reply}

theorem handle_closed (h : store.Retired handle)
    (hconnection : store.connection? handle = some connection) :
    connection.handle.closed = true ∧ connection.handle.pending = none :=
  h.closed (get?_of_connection? hconnection)

/-- Nothing can be done any more through a handle that is closed. -/
theorem eq_of_move (h : store.Retired handle)
    (hconnection : store.connection? handle = some connection)
    (hmove : connection.Move caller call result connection') : connection' = connection := by
  obtain ⟨hclosed, -⟩ := h.handle_closed hconnection
  have hdenies : connection.Denies caller := .inl hclosed
  cases hmove with
  | refuse | answer | closeAgain => rfl
  | begin husable =>
    rw [hdenies.requireUsable_eq] at husable
    cases husable
  | commit hwrites | cancel hwrites | write hwrites => exact absurd hwrites (hdenies.not_writes _)
  | close hopen =>
    rw [hclosed] at hopen
    cases hopen

/-- Whatever happens, the handle stays closed. -/
theorem move (h : store.Retired handle) (hmove : store.Move event outcome store') :
    store'.Retired handle := by
  cases hmove with
  | refuse | absent => exact h
  | opened p =>
    have hne : handle ≠ ⟨store.nextHandle⟩ := by
      rintro rfl
      exact Nat.lt_irrefl _ h.lt_nextHandle
    refine ⟨Nat.lt_succ_of_lt h.lt_nextHandle, fun hfound => ?_⟩
    rw [get?_opened, if_neg hne] at hfound
    exact h.closed hfound
  | @called handle' caller call result connection connection' hconnection hmove =>
    by_cases hself : handle = handle'
    · subst hself
      rwa [h.eq_of_move hconnection hmove, update_eq hconnection]
    · refine ⟨h.lt_nextHandle, fun hfound => ?_⟩
      rw [get?_update, if_neg hself] at hfound
      exact h.closed hfound
  | @dropped handle' connection hconnection =>
    refine ⟨h.lt_nextHandle, fun hfound => ?_⟩
    rw [get?_dropped] at hfound
    split at hfound
    · cases hfound
    · exact h.closed hfound

/-- An event about the handle changes nothing elsewhere. -/
theorem sameBut (h : store.Retired handle) (hmove : store.Move event outcome store')
    (hself : event.handle? = some handle) : SameBut handle store store' := by
  cases hmove with
  | refuse | opened => cases hself
  | absent => exact ⟨rfl, rfl, rfl, fun _ => rfl⟩
  | called hconnection hmove =>
    obtain rfl := Option.some.inj hself
    rw [h.eq_of_move hconnection hmove, update_eq hconnection]
    exact ⟨rfl, rfl, rfl, fun _ => rfl⟩
  | @dropped _ connection hconnection =>
    obtain rfl := Option.some.inj hself
    obtain ⟨-, hpending⟩ := h.handle_closed hconnection
    refine ⟨rfl, ?_, rfl, fun hne => by rw [get?_dropped, if_neg hne]⟩
    rw [dropped, Connection.discard_of_none hpending, shared_of_connection? hconnection]

end Retired

/-! ## Runs without a handle -/

namespace SameBut

theorem refl (handle : HandleId) (store : Store) : SameBut handle store store :=
  ⟨rfl, rfl, rfl, fun _ => rfl⟩

theorem trans_left (h : SameBut handle store other) (h' : SameBut handle store store') :
    SameBut handle store' other where
  id := h.id.trans h'.id.symm
  shared := h.shared.trans h'.shared.symm
  nextHandle := h.nextHandle.trans h'.nextHandle.symm
  get? hne := (h.get? hne).trans (h'.get? hne).symm

theorem connection?_eq (h : SameBut handle store other) {handle' : HandleId}
    (hne : handle' ≠ handle) : other.connection? handle' = store.connection? handle' := by
  rw [connection?, connection?, h.id, h.shared, h.get? hne]

theorem opened (h : SameBut handle store other) (p : Principal) (caller : Thread) :
    SameBut handle (store.opened p caller) (other.opened p caller) where
  id := h.id
  shared := h.shared
  nextHandle := congrArg (· + 1) h.nextHandle
  get? hne := by rw [get?_opened, get?_opened, h.nextHandle, h.get? hne]

theorem update (h : SameBut handle store other) (handle' : HandleId) (connection : Connection) :
    SameBut handle (store.update handle' connection) (other.update handle' connection) where
  id := h.id
  shared := rfl
  nextHandle := h.nextHandle
  get? hne := by rw [get?_update, get?_update, h.get? hne]

theorem dropped (h : SameBut handle store other) (handle' : HandleId) (connection : Connection) :
    SameBut handle (store.dropped handle' connection) (other.dropped handle' connection) where
  id := h.id
  shared := rfl
  nextHandle := h.nextHandle
  get? hne := by rw [get?_dropped, get?_dropped, h.get? hne]

/-- An event elsewhere goes alike on both stores. -/
theorem step (h : SameBut handle store other) (hother : event.handle? ≠ some handle) :
    (other.step event).1 = (store.step event).1 ∧
      SameBut handle (store.step event).2 (other.step event).2 := by
  cases event with
  | openHandle caller principal =>
    rw [step_openHandle, step_openHandle]
    cases Principal.parse principal with
    | error error => exact ⟨rfl, h⟩
    | ok p => exact ⟨by rw [h.nextHandle], h.opened p caller⟩
  | call handle' caller call =>
    have hne : handle' ≠ handle := fun heq => hother (congrArg some heq)
    have hsame := h.connection?_eq hne
    cases hconnection : store.connection? handle' with
    | none =>
      rw [step_call_of_none hconnection, step_call_of_none (hsame.trans hconnection)]
      exact ⟨rfl, h⟩
    | some connection =>
      rw [step_call hconnection rfl, step_call (hsame.trans hconnection) rfl]
      exact ⟨rfl, h.update handle' _⟩
  | dropHandle handle' =>
    have hne : handle' ≠ handle := fun heq => hother (congrArg some heq)
    have hsame := h.connection?_eq hne
    cases hconnection : store.connection? handle' with
    | none =>
      rw [step_dropHandle_of_none hconnection, step_dropHandle_of_none (hsame.trans hconnection)]
      exact ⟨rfl, h⟩
    | some connection =>
      rw [step_dropHandle hconnection, step_dropHandle (hsame.trans hconnection)]
      exact ⟨rfl, h.dropped handle' connection⟩

end SameBut

theorem elsewhere_cons (handle : HandleId) (event : Event) (events : List Event) :
    elsewhere handle (event :: events) =
      if event.handle? = some handle then elsewhere handle events
      else event :: elsewhere handle events := by
  unfold elsewhere
  by_cases hself : event.handle? = some handle <;> simp [hself]

theorem outcomesElsewhere_cons (handle : HandleId) (event : Event) (events : List Event)
    (outcome : Outcome) (outcomes : List Outcome) :
    outcomesElsewhere handle (event :: events) (outcome :: outcomes) =
      if event.handle? = some handle then outcomesElsewhere handle events outcomes
      else outcome :: outcomesElsewhere handle events outcomes := by
  unfold outcomesElsewhere
  by_cases hself : event.handle? = some handle <;> simp [hself]

theorem Retired.run (h : store.Retired handle) (events : List Event) :
    (store.run events).2.Retired handle := by
  induction events generalizing store with
  | nil => exact h
  | cons event events ih => exact ih (h.move (store.step_moves event))

/-- A run goes elsewhere as it does without the events about a handle that is closed. -/
theorem Retired.run_elsewhere (h : store.Retired handle) (hsame : SameBut handle store other)
    (events : List Event) :
    (other.run (elsewhere handle events)).1 =
        outcomesElsewhere handle events (store.run events).1 ∧
      SameBut handle (store.run events).2 (other.run (elsewhere handle events)).2 := by
  induction events generalizing store other with
  | nil => exact ⟨rfl, hsame⟩
  | cons event events ih =>
    have hretired := h.move (store.step_moves event)
    rw [elsewhere_cons, run_cons, outcomesElsewhere_cons]
    by_cases hself : event.handle? = some handle
    · -- The event is left out, and what it did is seen nowhere else.
      rw [if_pos hself, if_pos hself]
      exact ih hretired (hsame.trans_left (h.sameBut (store.step_moves event) hself))
    · rw [if_neg hself, if_neg hself, run_cons]
      obtain ⟨houtcome, hsame'⟩ := hsame.step hself
      obtain ⟨houtcomes, hlast⟩ := ih hretired hsame'
      exact ⟨by rw [houtcome, houtcomes], hlast⟩

/-! ## The main statement -/

/-- **Confinement.** In every reachable store, through a live handle that is closed or by a thread
that did not open it: every guarded call, whatever it asks for, is refused because the handle is
closed, or else because of the thread; every other call fails, unless it is a direct read or closes
the handle; and no call but closing changes anything. Closing a closed handle does nothing, a
closed handle stays closed for as long as it is live, and every run ends with the same committed
contents, the same slot and the same other handles, and the same outcomes elsewhere, as it does
without all that is done through the handle. -/
theorem handles_confined (h : store.Reachable) {connection : Connection}
    (hconnection : store.connection? handle = some connection) :
    (∀ caller, connection.handle.closed = true ∨ caller ≠ connection.handle.owner →
      (∀ call : Call, call.Guarded → store.step (.call handle caller call) =
        (.called (.error (if connection.handle.closed then .storeClosed else .wrongContext)),
          store)) ∧
      (∀ call : Call, call ≠ .close → (∀ query, call ≠ .request (.query query)) →
        ∃ error, store.step (.call handle caller call) = (.called (.error error), store)) ∧
      ∀ call : Call, call ≠ .close → (store.step (.call handle caller call)).2 = store) ∧
    (connection.handle.closed = true →
      (∀ caller, store.step (.call handle caller .close) = (.called (.ok .done), store)) ∧
      ∀ events : List Event,
        (∀ connection', (store.run events).2.connection? handle = some connection' →
          connection'.handle.closed = true) ∧
        (store.run (elsewhere handle events)).1 =
          outcomesElsewhere handle events (store.run events).1 ∧
        SameBut handle (store.run events).2 (store.run (elsewhere handle events)).2) := by
  constructor
  · intro caller hdenies
    have hdenies : connection.Denies caller := hdenies
    refine ⟨fun call hguarded => ?_, fun call hclose hquery => ?_, fun call hclose => ?_⟩
    · rw [step_call hconnection (Connection.apply_of_guarded hguarded hdenies.requireUsable_eq),
        update_eq hconnection]
      rfl
    · obtain ⟨error, hrefused⟩ := hdenies.refuses hclose hquery
      exact ⟨error, by rw [step_call hconnection hrefused, update_eq hconnection]⟩
    · obtain ⟨result, hkept⟩ := hdenies.keeps hclose
      rw [step_call hconnection hkept, update_eq hconnection]
  · intro hclosed
    have hretired := h.retired hconnection hclosed
    refine ⟨fun caller => ?_, fun events => ⟨fun connection' hconnection' => ?_, ?_⟩⟩
    · rw [step_call hconnection (connection.apply_close caller), if_pos hclosed,
        update_eq hconnection]
    · exact ((hretired.run events).handle_closed hconnection').1
    · exact hretired.run_elsewhere (.refl handle store) events

/-- Alice's handle is closed by another thread in the middle of her transaction. What she grants
and commits through it afterwards leaves no trace in what Bob commits. -/
theorem handles_confined_closed_in_transaction :
    let alice : Principal := ⟨"alice", by decide⟩
    let bob : Principal := ⟨"bob", by decide⟩
    let before : List Event :=
      [.openHandle ⟨0⟩ alice.text, .openHandle ⟨1⟩ bob.text, .call ⟨0⟩ ⟨0⟩ .begin,
        .call ⟨0⟩ ⟨0⟩ (.grantOnStore "editors" .all), .call ⟨0⟩ ⟨1⟩ .close]
    let commit : Event := .call ⟨0⟩ ⟨0⟩ .commit
    let after : List Event :=
      [commit, .call ⟨1⟩ ⟨1⟩ .begin, .call ⟨0⟩ ⟨0⟩ (.grantOnStore "editors" .all),
        .call ⟨1⟩ ⟨1⟩ (.grantOnStore "readers" .all), .call ⟨1⟩ ⟨1⟩ .commit]
    ∃ start : Store, Store.ofClasses ⟨0⟩ ["Document"] = .ok start ∧
      (start.run before).2.step commit = (.called (.error .storeClosed), (start.run before).2) ∧
      (start.run before).2.step (.call ⟨1⟩ ⟨0⟩ .begin) =
        (.called (.error .wrongContext), (start.run before).2) ∧
      SameBut ⟨0⟩ ((start.run before).2.run after).2
        ((start.run before).2.run (elsewhere ⟨0⟩ after)).2 ∧
      ((start.run before).2.run after).2.shared.committed.roles.keys = ["everyone", "readers"] := by
  intro alice bob before commit after
  have hnew : Store.ofClasses ⟨0⟩ ["Document"] = .ok _ := rfl
  refine ⟨_, hnew, ?_⟩
  have hreachable := (Reachable.ofClasses hnew).run before
  simp only [before, run_cons, step_openHandle, Principal.parse_text] at hreachable ⊢
  obtain ⟨hdenied, hclosed⟩ :=
    handles_confined hreachable (show Store.connection? _ ⟨0⟩ = some _ from rfl)
  obtain ⟨hforeign, -⟩ :=
    handles_confined hreachable (show Store.connection? _ ⟨1⟩ = some _ from rfl)
  exact ⟨(hdenied ⟨0⟩ (.inl rfl)).1 .commit .commit,
    (hforeign ⟨0⟩ (.inr (by decide +kernel))).1 .begin .begin,
    ((hclosed rfl).2 after).2.2, by decide +kernel⟩

end Store

end StoreAccess
