import StoreAccess.Proofs.Store.Calls

/-!
# What an event does to a store

`step_moves` lists all that an event can do to a store, and `Reachable` says which stores events
can lead to. Facts about every run are drawn from these.

Main statements: `step_moves`, `run_append` and `reachable_iff_run`.
-/

namespace StoreAccess

/-- The handle that an event is about, unless it opens one. -/
def Event.handle? : Event → Option HandleId
  | openHandle .. => none
  | call handle .. => some handle
  | dropHandle handle => some handle

/-- What a call that succeeded answered. -/
def Outcome.reply? : Outcome → Option Reply
  | called (.ok reply) => some reply
  | opened _ | called (.error _) | dropped | noHandle => none

theorem Outcome.reply?_eq_some_iff {outcome : Outcome} {reply : Reply} :
    outcome.reply? = some reply ↔ outcome = .called (.ok reply) := by
  unfold reply?
  split <;> simp_all

namespace Store

variable {store : Store} {handle : HandleId}

/-! ## Handles -/

/-- The contents that the transaction of a handle works on. -/
def pending? (store : Store) (handle : HandleId) : Option Contents :=
  (store.handles.get? handle).bind (·.pending)

/-- The handle is live and has a transaction. -/
def IsWriting (store : Store) (handle : HandleId) : Prop := (store.pending? handle).isSome = true

theorem connection?_eq_some_iff {connection : Connection} :
    store.connection? handle = some connection ↔
      store.handles.get? handle = some connection.handle ∧ connection.storeId = store.id ∧
        connection.shared = store.shared := by
  unfold connection?
  constructor
  · intro h
    obtain ⟨found, hfound, rfl⟩ := Option.map_eq_some_iff.1 h
    exact ⟨hfound, rfl, rfl⟩
  · rintro ⟨hfound, hid, hshared⟩
    rw [hfound, Option.map_some, ← hid, ← hshared]

theorem get?_of_connection? {connection : Connection}
    (h : store.connection? handle = some connection) :
    store.handles.get? handle = some connection.handle :=
  (connection?_eq_some_iff.1 h).1

theorem storeId_of_connection? {connection : Connection}
    (h : store.connection? handle = some connection) : connection.storeId = store.id :=
  (connection?_eq_some_iff.1 h).2.1

theorem shared_of_connection? {connection : Connection}
    (h : store.connection? handle = some connection) : connection.shared = store.shared :=
  (connection?_eq_some_iff.1 h).2.2

theorem pending?_of_connection? {connection : Connection}
    (h : store.connection? handle = some connection) :
    store.pending? handle = connection.handle.pending := by
  rw [pending?, get?_of_connection? h, Option.bind_some]

theorem isWriting_of_connection? {connection : Connection}
    (h : store.connection? handle = some connection) :
    store.IsWriting handle ↔ connection.handle.pending.isSome = true := by
  rw [IsWriting, pending?_of_connection? h]

/-- The store with a new handle. -/
def opened (store : Store) (p : Principal) (caller : Thread) : Store :=
  { store with
    handles := store.handles.insert ⟨store.nextHandle⟩ (.ofPrincipal p caller)
    nextHandle := store.nextHandle + 1 }

/-- The store without a handle whose connection was this. -/
def dropped (store : Store) (handle : HandleId) (connection : Connection) : Store :=
  { store with
    shared := connection.discard.shared
    handles := store.handles.erase handle }

section Lookups

variable (store : Store) (handle other : HandleId) (connection : Connection)

theorem get?_update : (store.update handle connection).handles.get? other =
    if other = handle then some connection.handle else store.handles.get? other :=
  SortedMap.get?_insert ..

theorem get?_opened (p : Principal) (caller : Thread) :
    (store.opened p caller).handles.get? other =
      if other = ⟨store.nextHandle⟩ then some (.ofPrincipal p caller)
      else store.handles.get? other :=
  SortedMap.get?_insert ..

theorem get?_dropped : (store.dropped handle connection).handles.get? other =
    if other = handle then none else store.handles.get? other :=
  SortedMap.get?_erase ..

theorem pending?_update : (store.update handle connection).pending? other =
    if other = handle then connection.handle.pending else store.pending? other := by
  unfold pending?
  rw [get?_update]
  split <;> rfl

theorem pending?_dropped : (store.dropped handle connection).pending? other =
    if other = handle then none else store.pending? other := by
  unfold pending?
  rw [get?_dropped]
  split <;> rfl

end Lookups

theorem connection?_update {connection : Connection} (hid : connection.storeId = store.id) :
    (store.update handle connection).connection? handle = some connection :=
  connection?_eq_some_iff.2 ⟨by rw [get?_update, if_pos rfl], hid, rfl⟩

/-- Putting the connection of a handle back changes nothing. -/
theorem update_eq {connection : Connection} (h : store.connection? handle = some connection) :
    store.update handle connection = store := by
  rw [update, shared_of_connection? h, SortedMap.insert_of_get? (get?_of_connection? h)]

/-! ## Events -/

/-- What may come of an event, and what the store is afterwards. -/
inductive Move (store : Store) : Event → Outcome → Store → Prop
  | refuse {caller : Thread} {principal : String} {error : AccessError} :
      Move store (.openHandle caller principal) (.opened (.error error)) store
  | opened {caller : Thread} (p : Principal) :
      Move store (.openHandle caller p.text) (.opened (.ok ⟨store.nextHandle⟩))
        (store.opened p caller)
  | called {handle : HandleId} {caller : Thread} {call : Call} {result : Except AccessError Reply}
      {connection connection' : Connection} :
      store.connection? handle = some connection →
        connection.Move caller call result connection' →
          Move store (.call handle caller call) (.called result) (store.update handle connection')
  | dropped {handle : HandleId} {connection : Connection} :
      store.connection? handle = some connection →
        Move store (.dropHandle handle) .dropped (store.dropped handle connection)
  | absent {event : Event} {handle : HandleId} :
      event.handle? = some handle → store.connection? handle = none →
        Move store event .noHandle store

theorem step_openHandle (store : Store) (caller : Thread) (principal : String) :
    store.step (.openHandle caller principal) =
      match Principal.parse principal with
      | .ok p => (.opened (.ok ⟨store.nextHandle⟩), store.opened p caller)
      | .error error => (.opened (.error error), store) := by
  simp only [step]
  rcases hparse : Principal.parse principal with error | p
  · have hrefuse : (openHandle caller principal).run store = .error error := by
      simp [openHandle, hparse]
    rw [Action.apply_ofChange_of_error hrefuse]
  · have hopen : (openHandle caller principal).run store =
        .ok (⟨store.nextHandle⟩, store.opened p caller) := by
      simp [openHandle, hparse, opened]
    rw [Action.apply_ofChange_of_ok hopen]

theorem step_call {connection connection' : Connection} {caller : Thread} {call : Call}
    {result : Except AccessError Reply} (h : store.connection? handle = some connection)
    (happly : (Connection.perform caller call).apply connection = (result, connection')) :
    store.step (.call handle caller call) =
      (.called result, store.update handle connection') := by
  simp [step, call?, h, happly]

theorem step_call_of_none (h : store.connection? handle = none) (caller : Thread) (call : Call) :
    store.step (.call handle caller call) = (.noHandle, store) := by
  simp [step, call?, h]

theorem contains_eq_isSome (store : Store) (handle : HandleId) :
    store.handles.contains handle = (store.connection? handle).isSome := by
  simp [SortedMap.contains, connection?]

theorem step_dropHandle {connection : Connection} (h : store.connection? handle = some connection) :
    store.step (.dropHandle handle) = (.dropped, store.dropped handle connection) := by
  simp [step, contains_eq_isSome, h, dropHandle, dropped]

theorem step_dropHandle_of_none (h : store.connection? handle = none) :
    store.step (.dropHandle handle) = (.noHandle, store) := by
  simp [step, contains_eq_isSome, h]

/-- **What an event can do**: its outcome and the store after it are those of one of the moves. -/
theorem step_moves (store : Store) (event : Event) :
    store.Move event (store.step event).1 (store.step event).2 := by
  cases event with
  | openHandle caller principal =>
    rw [step_openHandle]
    rcases hparse : Principal.parse principal with error | p
    · exact .refuse
    · rw [Principal.parse_eq_ok_iff.1 hparse]
      exact .opened p
  | call handle caller call =>
    cases h : store.connection? handle with
    | none =>
      rw [step_call_of_none h]
      exact .absent rfl h
    | some connection =>
      rw [step_call h rfl]
      exact .called h (connection.perform_moves caller call)
  | dropHandle handle =>
    cases h : store.connection? handle with
    | none =>
      rw [step_dropHandle_of_none h]
      exact .absent rfl h
    | some connection =>
      rw [step_dropHandle h]
      exact .dropped h

theorem Move.id_eq {store' : Store} {event : Event} {outcome : Outcome}
    (h : store.Move event outcome store') : store'.id = store.id := by
  cases h <;> rfl

@[simp] theorem step_id (store : Store) (event : Event) :
    (store.step event).2.id = store.id :=
  (store.step_moves event).id_eq

theorem step_eq_of_reply? {event : Event} {reply : Reply}
    (h : (store.step event).1.reply? = some reply) :
    store.step event = (.called (.ok reply), (store.step event).2) :=
  Prod.ext (Outcome.reply?_eq_some_iff.1 h) rfl

/-! ## Runs -/

@[simp] theorem run_nil (store : Store) : store.run [] = ([], store) := rfl

theorem run_cons (store : Store) (event : Event) (events : List Event) :
    store.run (event :: events) =
      ((store.step event).1 :: ((store.step event).2.run events).1,
        ((store.step event).2.run events).2) := rfl

theorem run_append (store : Store) (events events' : List Event) :
    store.run (events ++ events') =
      ((store.run events).1 ++ ((store.run events).2.run events').1,
        ((store.run events).2.run events').2) := by
  induction events generalizing store with
  | nil => rfl
  | cons event events ih => simp only [List.cons_append, run_cons, ih]

@[simp] theorem length_run (store : Store) (events : List Event) :
    (store.run events).1.length = events.length := by
  induction events generalizing store with
  | nil => rfl
  | cons event events ih => rw [run_cons, List.length_cons, List.length_cons, ih]

@[simp] theorem run_id (store : Store) (events : List Event) :
    (store.run events).2.id = store.id := by
  induction events generalizing store with
  | nil => rfl
  | cons event events ih => rw [run_cons, ih, step_id]

/-- A store that events lead to from a new one. -/
inductive Reachable : Store → Prop
  | ofClasses {id : StoreId} {classNames : List String} {store : Store} :
      Store.ofClasses id classNames = .ok store → Reachable store
  | step {store : Store} (event : Event) : Reachable store → Reachable (store.step event).2

theorem Reachable.run (h : store.Reachable) (events : List Event) :
    (store.run events).2.Reachable := by
  induction events generalizing store with
  | nil => exact h
  | cons event events ih => exact ih (h.step event)

/-- The reachable stores are those that runs of new stores end in. -/
theorem reachable_iff_run : store.Reachable ↔
    ∃ id classNames start events, Store.ofClasses id classNames = .ok start ∧
      store = (start.run events).2 := by
  constructor
  · intro h
    induction h with
    | @ofClasses id classNames store hnew => exact ⟨id, classNames, store, [], hnew, rfl⟩
    | step event _ ih =>
      obtain ⟨id, classNames, start, events, hnew, rfl⟩ := ih
      exact ⟨id, classNames, start, events ++ [event], hnew, by rw [run_append]; rfl⟩
  · rintro ⟨id, classNames, start, events, hnew, rfl⟩
    exact (Reachable.ofClasses hnew).run events

/-- A new store has no handles, and nobody writes to it. -/
theorem ofClasses_eq_ok {id : StoreId} {classNames : List String}
    (h : Store.ofClasses id classNames = .ok store) :
    ∃ contents, Contents.ofClasses classNames = .ok contents ∧
      store = ⟨id, ⟨contents, false⟩, .empty, 0⟩ := by
  obtain ⟨contents, hcontents, h⟩ := bind_eq_ok_iff.1 h
  exact ⟨contents, hcontents, (Except.ok.inj h).symm⟩

/-- A store keeps the identifier that it was made with. -/
theorem id_run_ofClasses {id : StoreId} {classNames : List String}
    (h : Store.ofClasses id classNames = .ok store) (events : List Event) :
    (store.run events).2.id = id := by
  obtain ⟨contents, -, rfl⟩ := ofClasses_eq_ok h
  rw [run_id]

end Store

end StoreAccess
