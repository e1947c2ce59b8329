import StoreAccess.Proofs.Store.Edits

/-!
# What a call does to a connection

`perform_moves` lists all that a call can do: refuse, answer a query, begin or end the transaction
of the handle, close the handle, or make a change to the contents of the transaction. Facts about
every call are drawn from that list.
-/

namespace StoreAccess.Connection

/-! ## Beginning and ending a transaction -/

/-- The connection with a transaction that works on a copy of the committed contents. -/
def acquire (connection : Connection) : Connection :=
  { connection with
    shared := { connection.shared with writing := true }
    handle := { connection.handle with pending := some connection.shared.committed } }

/-- The connection after its transaction has published its contents. -/
def publish (connection : Connection) (contents : Contents) : Connection :=
  { connection.release with shared := { committed := contents, writing := false } }

/-- The connection with its handle closed. -/
def shut (connection : Connection) : Connection :=
  { connection.discard with handle := { connection.discard.handle with closed := true } }

theorem requireUsable_eq_ok_iff {connection : Connection} {caller : Thread} :
    connection.requireUsable caller = .ok () ↔
      connection.handle.closed = false ∧ caller = connection.handle.owner :=
  AccessView.requireUsable_eq_ok_iff

/-! ## Dropping a transaction -/

section Discard

variable (connection : Connection)

theorem discard_of_none {connection : Connection} (h : connection.handle.pending = none) :
    connection.discard = connection := by
  simp [discard, h]

theorem discard_of_some {connection : Connection} {contents : Contents}
    (h : connection.handle.pending = some contents) : connection.discard = connection.release := by
  simp [discard, h]

theorem discard_pending : connection.discard.handle.pending = none := by
  cases h : connection.handle.pending with
  | none => rw [discard_of_none h, h]
  | some contents => rw [discard_of_some h, release]

theorem discard_committed :
    connection.discard.shared.committed = connection.shared.committed := by
  unfold discard
  split <;> rfl

end Discard

/-- What a call may answer, and what the connection is afterwards. -/
inductive Move (connection : Connection) (caller : Thread) :
    Call → Except AccessError Reply → Connection → Prop
  | refuse {call : Call} {error : AccessError} :
      Move connection caller call (.error error) connection
  | answer {query : Query} {reply : Reply} :
      connection.view.reply caller query = .ok reply →
        Move connection caller (.request (.query query)) (.ok reply) connection
  | begin :
      connection.requireUsable caller = .ok () → connection.handle.pending = none →
        connection.shared.writing = false →
          Move connection caller .begin (.ok .done) connection.acquire
  | commit {contents : Contents} :
      connection.Writes caller contents →
        Move connection caller .commit (.ok .done) (connection.publish contents)
  | cancel {contents : Contents} :
      connection.Writes caller contents →
        Move connection caller .cancel (.ok .done) connection.release
  | close :
      connection.handle.closed = false → Move connection caller .close (.ok .done) connection.shut
  | closeAgain :
      connection.handle.closed = true → Move connection caller .close (.ok .done) connection
  | write {call : Call} {change : Action Contents Reply} {contents contents' : Contents}
      {reply : Reply} :
      connection.Writes caller contents → call.change? connection.storeId = some change →
        change.apply contents = (.ok reply, contents') →
          Move connection caller call (.ok reply) (connection.withPending contents')

section Moves

variable {connection : Connection} {caller : Thread}

theorem apply_query (connection : Connection) (caller : Thread) (query : Query) :
    (perform caller (.request (.query query))).apply connection =
      (connection.view.reply caller query, connection) := rfl

theorem apply_begin (husable : connection.requireUsable caller = .ok ())
    (hpending : connection.handle.pending = none) (hfree : connection.shared.writing = false) :
    (perform caller .begin).apply connection = (.ok .done, connection.acquire) := by
  simp [perform, begin, Action.apply_bind, husable, hpending, hfree, acquire]

theorem apply_begin_of_pending (husable : connection.requireUsable caller = .ok ())
    {contents : Contents} (hpending : connection.handle.pending = some contents) :
    (perform caller .begin).apply connection = (.error .alreadyWriting, connection) := by
  simp [perform, begin, Action.apply_bind, husable, hpending]

theorem apply_begin_of_writing (husable : connection.requireUsable caller = .ok ())
    (hpending : connection.handle.pending = none) (hwriting : connection.shared.writing = true) :
    (perform caller .begin).apply connection = (.error .writerElsewhere, connection) := by
  simp [perform, begin, Action.apply_bind, husable, hpending, hwriting]

theorem apply_begin_of_unusable {error : AccessError}
    (husable : connection.requireUsable caller = .error error) :
    (perform caller .begin).apply connection = (.error error, connection) := by
  simp [perform, begin, Action.apply_bind, husable]

theorem apply_commit {contents : Contents} (h : connection.Writes caller contents) :
    (perform caller .commit).apply connection = (.ok .done, connection.publish contents) := by
  simp [perform, commit, Action.apply_bind, h.usable, h.pending, publish]

theorem apply_cancel {contents : Contents} (h : connection.Writes caller contents) :
    (perform caller .cancel).apply connection = (.ok .done, connection.release) := by
  simp [perform, cancel, Action.apply_bind, h.usable, h.pending]

theorem refuses_commit (h : ∀ contents, ¬ connection.Writes caller contents) :
    Refuses connection (perform caller .commit) := by
  rcases refused_of_not_writes h with ⟨error, husable⟩ | ⟨husable, hpending⟩
  · exact ⟨error, by simp [perform, commit, Action.apply_bind, husable]⟩
  · exact ⟨.notInTransaction, by simp [perform, commit, Action.apply_bind, husable, hpending]⟩

theorem refuses_cancel (h : ∀ contents, ¬ connection.Writes caller contents) :
    Refuses connection (perform caller .cancel) := by
  rcases refused_of_not_writes h with ⟨error, husable⟩ | ⟨husable, hpending⟩
  · exact ⟨error, by simp [perform, cancel, Action.apply_bind, husable]⟩
  · exact ⟨.notInTransaction, by simp [perform, cancel, Action.apply_bind, husable, hpending]⟩

theorem apply_write {call : Call} {change : Action Contents Reply}
    {contents contents' : Contents} {result : Except AccessError Reply}
    (h : connection.Writes caller contents) (hcall : call.change? connection.storeId = some change)
    (hrun : change.apply contents = (result, contents')) :
    (perform caller call).apply connection = (result, connection.withPending contents') := by
  have hperform := performs_call h hcall
  unfold Performs at hperform
  rw [hperform, hrun]

theorem apply_close (connection : Connection) (caller : Thread) :
    (perform caller .close).apply connection =
      (.ok .done, if connection.handle.closed then connection else connection.shut) := rfl

/-! ## Every call is one of the moves -/

theorem Refuses.moves {call : Call} (h : Refuses connection (perform caller call)) :
    Move connection caller call ((perform caller call).apply connection).1
      ((perform caller call).apply connection).2 := by
  obtain ⟨error, h⟩ := h
  rw [h]
  exact .refuse

theorem begin_moves (connection : Connection) (caller : Thread) :
    Move connection caller .begin ((perform caller .begin).apply connection).1
      ((perform caller .begin).apply connection).2 := by
  rcases husable : connection.requireUsable caller with error | _
  · rw [apply_begin_of_unusable husable]
    exact .refuse
  · cases hpending : connection.handle.pending with
    | some contents =>
      rw [apply_begin_of_pending husable hpending]
      exact .refuse
    | none =>
      cases hwriting : connection.shared.writing with
      | true =>
        rw [apply_begin_of_writing husable hpending hwriting]
        exact .refuse
      | false =>
        rw [apply_begin husable hpending hwriting]
        exact .begin husable hpending hwriting

theorem close_moves (connection : Connection) (caller : Thread) :
    Move connection caller .close ((perform caller .close).apply connection).1
      ((perform caller .close).apply connection).2 := by
  rw [apply_close]
  cases hclosed : connection.handle.closed with
  | true => exact .closeAgain hclosed
  | false => exact .close hclosed

theorem query_moves (connection : Connection) (caller : Thread) (query : Query) :
    Move connection caller (.request (.query query))
      ((perform caller (.request (.query query))).apply connection).1
      ((perform caller (.request (.query query))).apply connection).2 := by
  rw [apply_query]
  rcases hreply : connection.view.reply caller query with error | reply
  · exact .refuse
  · exact .answer hreply

theorem write_moves (connection : Connection) (caller : Thread) {call : Call}
    {change : Action Contents Reply} (hcall : call.change? connection.storeId = some change) :
    Move connection caller call ((perform caller call).apply connection).1
      ((perform caller call).apply connection).2 := by
  by_cases hwrites : ∃ contents, connection.Writes caller contents
  · obtain ⟨contents, hwrites⟩ := hwrites
    rcases contents.settles_call hcall with ⟨error, hrun⟩ | ⟨reply, contents', hrun, -⟩
    · rw [apply_write hwrites hcall hrun, hwrites.withPending_eq]
      exact .refuse
    · rw [apply_write hwrites hcall hrun]
      exact .write hwrites hcall hrun
  · exact (refuses_call (not_exists.1 hwrites) hcall).moves

/-- **What a call can do**: the answer and the connection after it are those of one of the
moves. -/
theorem perform_moves (connection : Connection) (caller : Thread) (call : Call) :
    Move connection caller call ((perform caller call).apply connection).1
      ((perform caller call).apply connection).2 := by
  cases call with
  | begin => exact begin_moves connection caller
  | commit =>
    by_cases hwrites : ∃ contents, connection.Writes caller contents
    · obtain ⟨contents, hwrites⟩ := hwrites
      rw [apply_commit hwrites]
      exact .commit hwrites
    · exact (refuses_commit (not_exists.1 hwrites)).moves
  | cancel =>
    by_cases hwrites : ∃ contents, connection.Writes caller contents
    · obtain ⟨contents, hwrites⟩ := hwrites
      rw [apply_cancel hwrites]
      exact .cancel hwrites
    · exact (refuses_cancel (not_exists.1 hwrites)).moves
  | close => exact close_moves connection caller
  | request request =>
    cases request with
    | query query => exact query_moves connection caller query
    | change change => exact write_moves connection caller rfl
  | createObject | createTyped | deleteObject | grantOnStore | grantOnClass | grantOnObject =>
    exact write_moves connection caller rfl

end Moves

end StoreAccess.Connection
