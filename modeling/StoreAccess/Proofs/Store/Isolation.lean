import StoreAccess.Proofs.Store.Slot

/-!
# What handles see of each other

A handle sees the contents of its own transaction, or else the committed contents. What it reads
depends on nothing else of the store, and what other handles do changes it in one way only: a
commit of another handle shows to the handles without a transaction.

Main statement: `handles_isolated`.
-/

namespace StoreAccess

namespace Connection

/-- The handles have the same fields, apart from what a transaction works on, and see the same
contents. -/
structure Alike (connection other : Connection) : Prop where
  storeId : connection.storeId = other.storeId
  principal : connection.handle.principal = other.handle.principal
  owner : connection.handle.owner = other.handle.owner
  closed : connection.handle.closed = other.handle.closed
  inTransaction : connection.handle.pending.isSome = other.handle.pending.isSome
  visible : connection.visible = other.visible

namespace Alike

variable {connection other another : Connection}

theorem refl (connection : Connection) : connection.Alike connection :=
  ⟨rfl, rfl, rfl, rfl, rfl, rfl⟩

theorem trans (h : connection.Alike other) (h' : other.Alike another) :
    connection.Alike another where
  storeId := h.storeId.trans h'.storeId
  principal := h.principal.trans h'.principal
  owner := h.owner.trans h'.owner
  closed := h.closed.trans h'.closed
  inTransaction := h.inTransaction.trans h'.inTransaction
  visible := h.visible.trans h'.visible

theorem of_handle_eq (hid : connection.storeId = other.storeId)
    (hhandle : connection.handle = other.handle) (hvisible : connection.visible = other.visible) :
    connection.Alike other :=
  ⟨hid, by rw [hhandle], by rw [hhandle], by rw [hhandle], by rw [hhandle], hvisible⟩

theorem view_eq (h : connection.Alike other) : connection.view = other.view := by
  simp only [view, containsObject, h.storeId, h.principal, h.owner, h.closed, h.inTransaction,
    h.visible]

end Alike

/-- A call publishes nothing, or it is a commit that publishes what its handle saw. -/
theorem Move.committed {connection connection' : Connection} {caller : Thread} {call : Call}
    {result : Except AccessError Reply} (h : connection.Move caller call result connection') :
    connection'.shared.committed = connection.shared.committed ∨
      call = .commit ∧ result = .ok .done ∧
        connection.handle.pending = some connection'.shared.committed := by
  cases h with
  | refuse | answer | begin | cancel | closeAgain | write => exact .inl rfl
  | commit hwrites => exact .inr ⟨rfl, rfl, hwrites.pending⟩
  | close => exact .inl connection.discard_committed

end Connection

/-- A query through a handle. -/
abbrev Event.read (handle : HandleId) (caller : Thread) (query : Query) : Event :=
  .call handle caller (.request (.query query))

namespace Store

/-- What a query through a handle answers. -/
def read (store : Store) (handle : HandleId) (caller : Thread) (query : Query) : Outcome :=
  (store.step (.read handle caller query)).1

/-- The event is a commit through the handle, and it succeeds. -/
def CommitsBy (handle : HandleId) (p : Event × Outcome) : Prop :=
  ∃ caller, p = (.call handle caller .commit, .called (.ok .done))

/-- The event is a query through the handle, or happens elsewhere and is no successful commit. -/
def QuietFor (handle : HandleId) (p : Event × Outcome) : Prop :=
  (∃ caller query, p.1 = .read handle caller query) ∨
    p.1.handle? ≠ some handle ∧ ¬ ∃ other, CommitsBy other p

variable {store : Store} {handle : HandleId} {connection : Connection}

theorem QuietFor.elsewhere {event : Event} {outcome : Outcome}
    (hother : event.handle? ≠ some handle)
    (hcommit : ∀ writer caller, event ≠ .call writer caller .commit) :
    QuietFor handle (event, outcome) := by
  refine .inr ⟨hother, ?_⟩
  rintro ⟨writer, caller, hpair⟩
  exact hcommit writer caller (Prod.mk.inj hpair).1

/-! ## Reading -/

theorem step_read (h : store.connection? handle = some connection) (caller : Thread)
    (query : Query) : store.step (.read handle caller query) =
      (.called (connection.view.reply caller query), store) := by
  rw [step_call h (connection.apply_query caller query), update_eq h]

theorem read_eq (h : store.connection? handle = some connection) (caller : Thread)
    (query : Query) : store.read handle caller query =
      .called (connection.view.reply caller query) := by
  rw [read, step_read h]

theorem read_of_alike {store' : Store} {handle' : HandleId} {connection' : Connection}
    (h : store.connection? handle = some connection)
    (h' : store'.connection? handle' = some connection') (halike : connection.Alike connection')
    (caller : Thread) (query : Query) :
    store.read handle caller query = store'.read handle' caller query := by
  rw [read_eq h, read_eq h', halike.view_eq]

/-! ## What other handles do -/

/-- An event publishes nothing, or it is a commit that publishes what its handle saw. -/
theorem Move.committed {store' : Store} {event : Event} {outcome : Outcome}
    (h : store.Move event outcome store') :
    store'.shared.committed = store.shared.committed ∨
      ∃ writer, CommitsBy writer (event, outcome) ∧
        store.pending? writer = some store'.shared.committed := by
  cases h with
  | refuse | opened | absent => exact .inl rfl
  | @called handle caller call result connection connection' hconnection hmove =>
    rcases hmove.committed with hkept | ⟨rfl, rfl, hpublished⟩
    · exact .inl (hkept.trans (by rw [shared_of_connection? hconnection]))
    · exact .inr ⟨handle, ⟨caller, rfl⟩, (pending?_of_connection? hconnection).trans hpublished⟩
  | @dropped handle connection hconnection =>
    exact .inl (connection.discard_committed.trans (by rw [shared_of_connection? hconnection]))

/-- An event elsewhere leaves a live handle as it is. -/
theorem Slot.get?_move {holder? : Option HandleId} (hslot : store.Slot holder?) {found : Handle}
    (hfound : store.handles.get? handle = some found) {store' : Store} {event : Event}
    {outcome : Outcome} (hmove : store.Move event outcome store')
    (hother : event.handle? ≠ some handle) : store'.handles.get? handle = some found := by
  cases hmove with
  | refuse | absent => exact hfound
  | opened p =>
    have hne : handle ≠ ⟨store.nextHandle⟩ := by
      rintro rfl
      exact Nat.lt_irrefl _ (hslot.lt_nextHandle hfound)
    rw [get?_opened, if_neg hne, hfound]
  | called =>
    have hne : handle ≠ _ := fun heq => hother (congrArg some heq.symm)
    rw [get?_update, if_neg hne, hfound]
  | dropped =>
    have hne : handle ≠ _ := fun heq => hother (congrArg some heq.symm)
    rw [get?_dropped, if_neg hne, hfound]

/-- **Frame.** An event elsewhere leaves what a live handle sees as it is, unless it is a commit
and the handle has no transaction. -/
theorem Reachable.step_elsewhere (h : store.Reachable)
    (hconnection : store.connection? handle = some connection) {event : Event}
    (hother : event.handle? ≠ some handle) :
    ∃ connection', (store.step event).2.connection? handle = some connection' ∧
      connection'.storeId = connection.storeId ∧ connection'.handle = connection.handle ∧
      (connection'.visible = connection.visible ∨
        (∃ writer, CommitsBy writer (event, (store.step event).1)) ∧
          connection.handle.pending = none) := by
  obtain ⟨holder?, hslot⟩ := h.slot
  obtain ⟨hfound, hid, hshared⟩ := connection?_eq_some_iff.1 hconnection
  have hfound' := hslot.get?_move hfound (store.step_moves event) hother
  refine ⟨⟨store.id, (store.step event).2.shared, connection.handle⟩, ?_, hid.symm, rfl, ?_⟩
  · exact connection?_eq_some_iff.2 ⟨hfound', (step_id store event).symm, rfl⟩
  · cases hpending : connection.handle.pending with
    | some contents => exact .inl (by simp [Connection.visible, hpending])
    | none =>
      rcases (store.step_moves event).committed with hkept | ⟨writer, hcommits, -⟩
      · exact .inl (by simp [Connection.visible, hpending, hkept, hshared])
      · exact .inr ⟨⟨writer, hcommits⟩, rfl⟩

theorem Reachable.step_quiet (h : store.Reachable)
    (hconnection : store.connection? handle = some connection) {event : Event}
    (hquiet : QuietFor handle (event, (store.step event).1)) :
    ∃ connection', (store.step event).2.connection? handle = some connection' ∧
      connection.Alike connection' := by
  rcases hquiet with ⟨caller, query, hread⟩ | ⟨hother, hcommit⟩
  · have hread : event = .read handle caller query := hread
    rw [hread, step_read hconnection]
    exact ⟨connection, hconnection, .refl connection⟩
  · obtain ⟨connection', hconnection', hid, hhandle, hvisible⟩ :=
      h.step_elsewhere hconnection hother
    rcases hvisible with hvisible | ⟨hcommits, -⟩
    · exact ⟨connection', hconnection', .of_handle_eq hid.symm hhandle.symm hvisible.symm⟩
    · exact absurd hcommits hcommit

/-- While a handle only reads and nobody commits elsewhere, it stays as it is and sees the same. -/
theorem Reachable.run_quiet (h : store.Reachable)
    (hconnection : store.connection? handle = some connection) (events : List Event)
    (hquiet : ∀ p ∈ events.zip (store.run events).1, QuietFor handle p) :
    ∃ connection', (store.run events).2.connection? handle = some connection' ∧
      connection.Alike connection' := by
  induction events generalizing store connection with
  | nil => exact ⟨connection, hconnection, .refl connection⟩
  | cons event events ih =>
    rw [run_cons, List.zip_cons_cons, List.forall_mem_cons] at hquiet
    obtain ⟨connection', hconnection', halike⟩ := h.step_quiet hconnection hquiet.1
    obtain ⟨connection'', hconnection'', halike'⟩ := ih (h.step event) hconnection' hquiet.2
    exact ⟨connection'', hconnection'', halike.trans halike'⟩

/-- Every query made meanwhile answers as it would have at the start. -/
theorem Reachable.run_reads (h : store.Reachable)
    (hconnection : store.connection? handle = some connection) (events : List Event)
    (hquiet : ∀ p ∈ events.zip (store.run events).1, QuietFor handle p) {caller : Thread}
    {query : Query} {outcome : Outcome}
    (hread : (.read handle caller query, outcome) ∈ events.zip (store.run events).1) :
    outcome = store.read handle caller query := by
  induction events generalizing store connection with
  | nil => cases hread
  | cons event events ih =>
    rw [run_cons, List.zip_cons_cons] at hquiet hread
    rw [List.forall_mem_cons] at hquiet
    rcases List.mem_cons.1 hread with hhere | hlater
    · obtain ⟨hevent, houtcome⟩ := Prod.mk.inj hhere
      rw [houtcome, ← hevent, read]
    · -- The event leaves the handle alike, so what it reads later it would read now.
      obtain ⟨connection', hconnection', halike⟩ := h.step_quiet hconnection hquiet.1
      rw [ih (h.step event) hconnection' hquiet.2 hlater,
        read_of_alike hconnection hconnection' halike]

/-- What a successful commit shows is what its handle saw just before. -/
theorem visible_of_commit {writer : HandleId} {caller : Thread} {connection' : Connection}
    (hwriter : store.connection? writer = some connection)
    (hdone : (store.step (.call writer caller .commit)).1 = .called (.ok .done))
    (h' : (store.step (.call writer caller .commit)).2.connection? handle = some connection')
    (hpending : connection'.handle.pending = none) :
    connection'.visible = connection.visible := by
  by_cases hwrites : ∃ contents, connection.Writes caller contents
  · obtain ⟨contents, hwrites⟩ := hwrites
    rw [step_call hwriter (Connection.apply_commit hwrites)] at h'
    have hcommitted : connection'.shared.committed = contents := by
      rw [shared_of_connection? h']
      rfl
    simp [Connection.visible, hpending, hcommitted, hwrites.pending]
  · obtain ⟨error, hrefuse⟩ := Connection.refuses_commit (not_exists.1 hwrites)
    rw [step_call hwriter hrefuse] at hdone
    cases hdone

/-- **Isolation of handles.** In every reachable store, for every live handle: what a query
answers, which changes nothing, is determined by the fields of the handle, the caller and what the
handle sees; what other handles do leaves that as it is, unless they commit and the handle has no
transaction; so while the handle only reads and nobody commits elsewhere, its queries answer the
same again and again. What every handle without a transaction sees after a commit is what the
committing handle saw just before. -/
theorem handles_isolated (h : store.Reachable)
    (hconnection : store.connection? handle = some connection) :
    (∀ caller query, (store.step (.read handle caller query)).2 = store ∧
      ∀ (other : Store) (handle' : HandleId) (connection' : Connection),
        other.connection? handle' = some connection' → connection.Alike connection' →
          store.read handle caller query = other.read handle' caller query) ∧
    (∀ event : Event, event.handle? ≠ some handle →
      ∃ connection', (store.step event).2.connection? handle = some connection' ∧
        connection'.handle = connection.handle ∧
        (connection'.visible = connection.visible ∨
          (∃ writer, CommitsBy writer (event, (store.step event).1)) ∧
            connection.handle.pending = none)) ∧
    (∀ events : List Event, (∀ p ∈ events.zip (store.run events).1, QuietFor handle p) →
      ∀ caller query,
        (∀ outcome, (.read handle caller query, outcome) ∈ events.zip (store.run events).1 →
          outcome = store.read handle caller query) ∧
        (store.run events).2.read handle caller query = store.read handle caller query) ∧
    ∀ caller, (store.step (.call handle caller .commit)).1 = .called (.ok .done) →
      ∀ other connection',
        (store.step (.call handle caller .commit)).2.connection? other = some connection' →
          connection'.handle.pending = none → connection'.visible = connection.visible := by
  refine ⟨fun caller query => ⟨?_, fun other handle' connection' h' halike => ?_⟩,
    fun event hother => ?_, fun events hquiet caller query => ⟨fun outcome hread => ?_, ?_⟩,
    fun caller hdone other connection' h' hpending => ?_⟩
  · rw [step_read hconnection]
  · exact read_of_alike hconnection h' halike caller query
  · obtain ⟨connection', hconnection', -, hhandle, hvisible⟩ := h.step_elsewhere hconnection hother
    exact ⟨connection', hconnection', hhandle, hvisible⟩
  · exact h.run_reads hconnection events hquiet hread
  · obtain ⟨connection', hconnection', halike⟩ := h.run_quiet hconnection events hquiet
    exact (read_of_alike hconnection hconnection' halike caller query).symm
  · exact visible_of_commit hconnection hdone h' hpending

/-- Bob reads while alice creates a document and cancels. When she has created one and commits, he
finds the document that she saw before. -/
theorem handles_isolated_while_other_writes :
    let alice : Principal := ⟨"alice", by decide⟩
    let bob : Principal := ⟨"bob", by decide⟩
    let create : Event := .call ⟨0⟩ ⟨0⟩ (.createObject "Document")
    let commit : Event := .call ⟨0⟩ ⟨0⟩ .commit
    let finds : Query := .containsObject (.managed ⟨0⟩ "Document" ⟨1⟩)
    let before : List Event :=
      [.openHandle ⟨0⟩ alice.text, .openHandle ⟨1⟩ bob.text, .call ⟨0⟩ ⟨0⟩ .begin]
    let events : List Event := [.read ⟨1⟩ ⟨1⟩ finds, create, .call ⟨0⟩ ⟨0⟩ .cancel]
    ∃ start : Store, Store.ofClasses ⟨0⟩ ["Document"] = .ok start ∧
      ((start.run before).2.run events).2.read ⟨1⟩ ⟨1⟩ finds =
        (start.run before).2.read ⟨1⟩ ⟨1⟩ finds ∧
      let written := ((start.run before).2.step create).2
      written.read ⟨1⟩ ⟨1⟩ finds = .called (.ok (.flag false)) ∧
      (written.step commit).1 = .called (.ok .done) ∧
      ∃ writer reader, written.connection? ⟨0⟩ = some writer ∧
        (written.step commit).2.connection? ⟨1⟩ = some reader ∧ reader.visible = writer.visible ∧
        (written.step commit).2.read ⟨1⟩ ⟨1⟩ finds = .called (.ok (.flag true)) := by
  intro alice bob create commit finds before events
  have hnew : Store.ofClasses ⟨0⟩ ["Document"] = .ok _ := rfl
  refine ⟨_, hnew, ?_⟩
  have hreach := (Reachable.ofClasses hnew).run before
  simp only [before, run_cons, step_openHandle, Principal.parse_text] at hreach ⊢
  refine ⟨?_, Outcome.reply?_eq_some_iff.1 (by decide +kernel),
    Outcome.reply?_eq_some_iff.1 (by decide +kernel), _, _, rfl, rfl, ?_,
    Outcome.reply?_eq_some_iff.1 (by decide +kernel)⟩
  · refine ((handles_isolated hreach (show Store.connection? _ ⟨1⟩ = some _ from rfl)).2.2.1 events
      ?_ ⟨1⟩ finds).2
    rintro ⟨event, outcome⟩ hmem
    have hevent : event ∈ events := (List.of_mem_zip hmem).1
    simp only [events, create, List.mem_cons, List.not_mem_nil, or_false] at hevent
    rcases hevent with rfl | rfl | rfl
    · exact .inl ⟨_, _, rfl⟩
    · exact .elsewhere (by simp [Event.handle?]) (by simp)
    · exact .elsewhere (by simp [Event.handle?]) (by simp)
  · have hwriter := handles_isolated (hreach.step create)
      (show Store.connection? _ ⟨0⟩ = some _ from rfl)
    exact hwriter.2.2.2 ⟨0⟩ (Outcome.reply?_eq_some_iff.1 (by decide +kernel)) ⟨1⟩ _ rfl rfl

end Store

end StoreAccess
