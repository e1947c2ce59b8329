import StoreAccess.Proofs.Store.Journal

/-!
# Transactions happen one after the other

However the calls through the handles of a store interleave, what is committed in the end is what
the writes of the committed transactions lead to from the contents at the start, one transaction
after the other. So it is what one handle commits that makes these transactions, each as a whole,
and gets the same replies.

Main statement: `serial_equivalence`.
-/

namespace StoreAccess

namespace Transaction

/-- The transaction as a handle makes it. -/
def events (handle : HandleId) (caller : Thread) (writes : Transaction) : List Event :=
  .call handle caller .begin ::
    (writes.map (fun w => .call handle caller w.call) ++ [.call handle caller .commit])

/-- What comes of it when it succeeds as it did before. -/
def outcomes (writes : Transaction) : List Outcome :=
  .called (.ok .done) ::
    (writes.map (fun w => .called (.ok w.reply)) ++ [.called (.ok .done)])

end Transaction

namespace Connection

/-- The handle serves the caller, and may begin a transaction. -/
structure Idle (connection : Connection) (caller : Thread) : Prop where
  usable : connection.requireUsable caller = .ok ()
  pending : connection.handle.pending = none
  free : connection.shared.writing = false

/-- The connection with other committed contents. -/
def withCommitted (connection : Connection) (contents : Contents) : Connection :=
  { connection with shared := { connection.shared with committed := contents } }

section Idle

variable {connection : Connection} {caller : Thread}

theorem Idle.withCommitted (h : connection.Idle caller) (contents : Contents) :
    (connection.withCommitted contents).Idle caller :=
  ⟨h.usable, h.pending, h.free⟩

theorem Idle.acquire_writes (h : connection.Idle caller) :
    connection.acquire.Writes caller connection.shared.committed :=
  ⟨h.usable, rfl⟩

/-- A transaction of its own leaves an idle handle idle, with what it published. -/
theorem Idle.publish_eq (h : connection.Idle caller) (contents : Contents) :
    (connection.acquire.withPending contents).publish contents =
      connection.withCommitted contents := by
  have hpending : ({ connection.handle with pending := none } : Handle) = connection.handle := by
    rw [← h.pending]
  simp [publish, release, Connection.withPending, acquire, Connection.withCommitted, hpending,
    ← h.free]

end Idle

end Connection

namespace Store

variable {store : Store} {handle : HandleId} {connection : Connection} {caller : Thread}

/-- A connection keeps its place among the handles when a call changes it. -/
theorem connection?_step {connection' : Connection} {call : Call}
    {result : Except AccessError Reply} (h : store.connection? handle = some connection)
    (happly : (Connection.perform caller call).apply connection = (result, connection'))
    (hid : connection'.storeId = connection.storeId) :
    (store.step (.call handle caller call)).1 = .called result ∧
      (store.step (.call handle caller call)).2.connection? handle = some connection' := by
  rw [step_call h happly]
  exact ⟨rfl, connection?_update (hid.trans (storeId_of_connection? h))⟩

/-- Making writes again in a transaction gets the same replies. -/
theorem run_writes {writes : Transaction} {contents contents' : Contents}
    (h : store.connection? handle = some connection) (hwrites : connection.Writes caller contents)
    (hreplays : Replays connection.storeId writes contents contents') :
    (store.run (writes.map fun w => .call handle caller w.call)).1 =
        writes.map (fun w => .called (.ok w.reply)) ∧
      (store.run (writes.map fun w => .call handle caller w.call)).2.connection? handle =
        some (connection.withPending contents') := by
  -- Each write finds the contents that the one before it left in the transaction.
  induction writes generalizing store connection contents with
  | nil =>
    cases hreplays
    rw [hwrites.withPending_eq]
    exact ⟨rfl, h⟩
  | cons w writes ih =>
    cases hreplays with
    | @cons _ _ change _ between _ hcall hrun hrest =>
      obtain ⟨hreply, h'⟩ := connection?_step h (Connection.apply_write hwrites hcall hrun) rfl
      obtain ⟨hreplies, hlast⟩ := ih h' (hwrites.withPending between) hrest
      rw [List.map_cons, run_cons]
      exact ⟨by rw [hreply, hreplies, List.map_cons], hlast⟩

/-- Making a transaction again through an idle handle succeeds, and publishes the same. -/
theorem run_transaction {writes : Transaction} {contents : Contents}
    (h : store.connection? handle = some connection) (hidle : connection.Idle caller)
    (hreplays : Replays connection.storeId writes connection.shared.committed contents) :
    (store.run (Transaction.events handle caller writes)).1 = Transaction.outcomes writes ∧
      (store.run (Transaction.events handle caller writes)).2.connection? handle =
        some (connection.withCommitted contents) := by
  have hwrites := hidle.acquire_writes
  obtain ⟨hbegun, h₁⟩ := connection?_step h
    (Connection.apply_begin hidle.usable hidle.pending hidle.free) rfl
  obtain ⟨hreplies, h₂⟩ := run_writes h₁ hwrites hreplays
  obtain ⟨hdone, h₃⟩ := connection?_step h₂
    (Connection.apply_commit (hwrites.withPending contents)) rfl
  rw [hidle.publish_eq] at h₃
  rw [Transaction.events, run_cons, run_append, run_cons, run_nil]
  exact ⟨by rw [hbegun, hreplies, hdone, Transaction.outcomes], h₃⟩

/-- Making transactions again, one after the other. -/
theorem run_transactions {transactions : List Transaction} {contents : Contents}
    (h : store.connection? handle = some connection) (hidle : connection.Idle caller)
    (hreplays : Replays connection.storeId transactions.flatten connection.shared.committed
      contents) :
    (store.run (transactions.flatMap (Transaction.events handle caller))).1 =
        transactions.flatMap Transaction.outcomes ∧
      (store.run (transactions.flatMap (Transaction.events handle caller))).2.connection? handle =
        some (connection.withCommitted contents) := by
  induction transactions generalizing store connection with
  | nil =>
    cases hreplays
    exact ⟨rfl, h⟩
  | cons writes transactions ih =>
    rw [List.flatten_cons, Replays.append_iff] at hreplays
    obtain ⟨between, hreplays, hrest⟩ := hreplays
    obtain ⟨houtcomes, h'⟩ := run_transaction h hidle hreplays
    obtain ⟨houtcomes', hlast⟩ := ih h' (hidle.withCommitted between) hrest
    rw [List.flatMap_cons, run_append, List.flatMap_cons]
    exact ⟨by rw [houtcomes, houtcomes'], hlast⟩

variable {id : StoreId} {classNames : List String} {start : Store}

/-- The first handle that is opened on a new store is idle. -/
theorem exists_idle (hnew : Store.ofClasses id classNames = .ok start) (p : Principal)
    (caller : Thread) :
    ∃ opened connection,
      start.step (.openHandle caller p.text) = (.opened (.ok ⟨0⟩), opened) ∧
        opened.connection? ⟨0⟩ = some connection ∧ connection.Idle caller ∧
        connection.storeId = id ∧ connection.shared.committed = start.shared.committed := by
  obtain ⟨first, -, rfl⟩ := ofClasses_eq_ok hnew
  let start : Store := ⟨id, ⟨first, false⟩, .empty, 0⟩
  have hopened : start.step (.openHandle caller p.text) =
      (.opened (.ok ⟨0⟩), start.opened p caller) := by
    rw [step_openHandle, Principal.parse_text]
  have hconnection : (start.opened p caller).connection? ⟨0⟩ =
      some ⟨id, ⟨first, false⟩, .ofPrincipal p caller⟩ :=
    connection?_eq_some_iff.2 ⟨by rw [get?_opened]; rfl, rfl, rfl⟩
  have hidle : Connection.Idle ⟨id, ⟨first, false⟩, .ofPrincipal p caller⟩ caller :=
    ⟨Connection.requireUsable_eq_ok_iff.2 ⟨rfl, rfl⟩, rfl, rfl⟩
  exact ⟨_, _, hopened, hconnection, hidle, rfl, rfl⟩

/-- What is committed is what the committed transactions lead to. -/
theorem replays_committed (hnew : Store.ofClasses id classNames = .ok start)
    (events : List Event) :
    Replays id (Journal.ofHistory (events.zip (start.run events).1)).committed.flatten
      start.shared.committed (start.run events).2.shared.committed := by
  have hcommitted := (accounts_ofHistory hnew events).committed
  rwa [id_run_ofClasses hnew] at hcommitted

/-- **Serial equivalence.** Whatever happens to a new store through whichever handles, in whatever
order and with whatever success: the committed contents are what the transactions that were
committed lead to from the contents at the start, one whole transaction after the other in the
order of their commits, by the writing calls that succeeded in each and with their replies. So if
one handle makes these transactions, then all its calls succeed with the replies of the first time,
and the committed contents are the same in the end. -/
theorem serial_equivalence (hnew : Store.ofClasses id classNames = .ok start)
    (events : List Event) (p : Principal) (caller : Thread) :
    let transactions := (Journal.ofHistory (events.zip (start.run events).1)).committed
    let again := start.run
      (.openHandle caller p.text :: transactions.flatMap (Transaction.events ⟨0⟩ caller))
    Replays id transactions.flatten start.shared.committed (start.run events).2.shared.committed ∧
      again.1 = .opened (.ok ⟨0⟩) :: transactions.flatMap Transaction.outcomes ∧
      again.2.shared.committed = (start.run events).2.shared.committed := by
  intro transactions again
  have hreplays := replays_committed hnew events
  obtain ⟨opened, connection, hopened, hconnection, hidle, hid, hcommitted⟩ :=
    exists_idle hnew p caller
  obtain ⟨houtcomes, hlast⟩ :=
    run_transactions hconnection hidle (by rwa [hid, hcommitted])
  have hagain : again =
      (.opened (.ok ⟨0⟩) ::
        (opened.run (transactions.flatMap (Transaction.events ⟨0⟩ caller))).1,
        (opened.run (transactions.flatMap (Transaction.events ⟨0⟩ caller))).2) := by
    simp only [again, run_cons, hopened]
  rw [hagain]
  have hpublished := congrArg Shared.committed (shared_of_connection? hlast)
  exact ⟨hreplays, by rw [houtcomes], hpublished.symm⟩

/-- Of two handles that write, the first commits a document, and the second cancels another. -/
theorem serial_equivalence_two_handles :
    let alice : Principal := ⟨"alice", by decide⟩
    let bob : Principal := ⟨"bob", by decide⟩
    let create : Call := .createObject "Document"
    let events : List Event :=
      [.openHandle ⟨0⟩ alice.text, .openHandle ⟨1⟩ bob.text, .call ⟨0⟩ ⟨0⟩ .begin,
        .call ⟨1⟩ ⟨1⟩ .begin, .call ⟨0⟩ ⟨0⟩ create, .call ⟨1⟩ ⟨1⟩ create, .call ⟨0⟩ ⟨0⟩ .commit,
        .call ⟨1⟩ ⟨1⟩ .begin, .call ⟨1⟩ ⟨1⟩ create, .call ⟨1⟩ ⟨1⟩ .cancel]
    ∃ start : Store, Store.ofClasses ⟨0⟩ ["Document"] = .ok start ∧
      let transactions := (Journal.ofHistory (events.zip (start.run events).1)).committed
      let again := start.run
        (.openHandle ⟨2⟩ bob.text :: transactions.flatMap (Transaction.events ⟨0⟩ ⟨2⟩))
      transactions.map (·.map Write.reply) = [[.object (.managed ⟨0⟩ "Document" ⟨1⟩)]] ∧
      (start.run events).2.shared.committed.objects.keys = [⟨"Document", ⟨1⟩⟩] ∧
      Replays ⟨0⟩ transactions.flatten start.shared.committed
        (start.run events).2.shared.committed ∧
      again.1 = .opened (.ok ⟨0⟩) :: transactions.flatMap Transaction.outcomes ∧
      again.2.shared.committed = (start.run events).2.shared.committed := by
  intro alice bob create events
  have hnew : Store.ofClasses ⟨0⟩ ["Document"] = .ok _ := rfl
  refine ⟨_, hnew, ?_, ?_, serial_equivalence hnew events bob ⟨2⟩⟩
  · simp only [events, run_cons, step_openHandle, Principal.parse_text]
    decide +kernel
  · simp only [events, run_cons, step_openHandle, Principal.parse_text]
    decide +kernel

end Store

end StoreAccess
