import StoreAccess.Proofs.Store.Slot

/-!
# The journal of a run

The journal of a run is read off its events and their outcomes: the writing calls that succeeded
in each transaction, by handle while the transaction is open, and in the order of the commits
after that. A transaction that ends in another way leaves the journal.

`Accounts` says that the journal explains the contents. What is committed comes of the committed
transactions, and what a transaction works on comes of its writes to what is committed *now*: the
committed contents have not changed since it began, since it holds the slot.

Main statement: `accounts_run`.
-/

namespace StoreAccess

/-- A writing call that succeeded, with its reply. -/
structure Write where
  call : Call
  reply : Reply

/-- The writes of a transaction, in order. -/
abbrev Transaction := List Write

/-- Whether a call writes in a transaction. -/
def Call.isWrite : Call → Bool
  | begin | commit | cancel | close | request (.query _) => false
  | createObject _ | createTyped _ | deleteObject _ | grantOnStore .. | grantOnClass ..
  | grantOnObject .. | request (.change _) => true

theorem Call.isWrite_of_change? {id : StoreId} {call : Call} {change : Action Contents Reply}
    (h : call.change? id = some change) : call.isWrite = true := by
  cases call with
  | begin | commit | cancel | close => cases h
  | createObject | createTyped | deleteObject | grantOnStore | grantOnClass | grantOnObject => rfl
  | request request =>
    cases request with
    | query query => cases h
    | change change => rfl

/-- What is known of the transactions of a run. -/
structure Journal where
  opened : SortedMap HandleId Transaction
  committed : List Transaction

namespace Journal

def empty : Journal := ⟨.empty, []⟩

/-- The transaction of the handle begins. -/
def start (journal : Journal) (handle : HandleId) : Journal :=
  { journal with opened := journal.opened.insert handle [] }

/-- The transaction of the handle goes on. -/
def note (journal : Journal) (handle : HandleId) (w : Write) : Journal :=
  { journal with
    opened := journal.opened.insert handle ((journal.opened.get? handle).getD [] ++ [w]) }

/-- The transaction of the handle ends and leaves nothing. -/
def forget (journal : Journal) (handle : HandleId) : Journal :=
  { journal with opened := journal.opened.erase handle }

/-- The transaction of the handle ends and is the last one committed. -/
def commit (journal : Journal) (handle : HandleId) : Journal where
  opened := journal.opened.erase handle
  committed := journal.committed ++ (journal.opened.get? handle).toList

/-- Takes down an event with its outcome. What fails is not taken down. -/
def record (journal : Journal) : Event × Outcome → Journal
  | (.call handle _ .begin, .called (.ok _)) => journal.start handle
  | (.call handle _ .commit, .called (.ok _)) => journal.commit handle
  | (.call handle _ .cancel, .called (.ok _)) => journal.forget handle
  | (.call handle _ .close, .called (.ok _)) => journal.forget handle
  | (.dropHandle handle, .dropped) => journal.forget handle
  | (.call handle _ call, .called (.ok reply)) =>
    if call.isWrite then journal.note handle ⟨call, reply⟩ else journal
  | _ => journal

/-- The journal of a run, from its events with their outcomes. -/
def ofHistory (history : List (Event × Outcome)) : Journal := history.foldl record empty

@[simp] theorem record_error (journal : Journal) (handle : HandleId) (caller : Thread)
    (call : Call) (error : AccessError) :
    journal.record (.call handle caller call, .called (.error error)) = journal := by
  cases call <;> rfl

@[simp] theorem record_noHandle (journal : Journal) (event : Event) :
    journal.record (event, .noHandle) = journal := by
  cases event with
  | openHandle | dropHandle => rfl
  | call handle caller call => cases call <;> rfl

theorem record_write (journal : Journal) {handle : HandleId} {caller : Thread} {call : Call}
    {reply : Reply} (h : call.isWrite = true) :
    journal.record (.call handle caller call, .called (.ok reply)) =
      journal.note handle ⟨call, reply⟩ := by
  cases call with
  | begin | commit | cancel | close => cases h
  | createObject | createTyped | deleteObject | grantOnStore | grantOnClass | grantOnObject => rfl
  | request request =>
    cases request with
    | query query => cases h
    | change change => rfl

end Journal

/-! ## Replaying writes -/

/-- The writes lead from the first contents to the second, with their replies. -/
inductive Replays (id : StoreId) : Transaction → Contents → Contents → Prop
  | nil {contents : Contents} : Replays id [] contents contents
  | cons {w : Write} {writes : Transaction} {change : Action Contents Reply}
      {contents contents' contents'' : Contents} :
      w.call.change? id = some change → change.apply contents = (.ok w.reply, contents') →
        Replays id writes contents' contents'' → Replays id (w :: writes) contents contents''

namespace Replays

variable {id : StoreId} {writes writes' : Transaction} {contents contents' contents'' : Contents}

theorem append_iff : Replays id (writes ++ writes') contents contents'' ↔
    ∃ contents',
      Replays id writes contents contents' ∧ Replays id writes' contents' contents'' := by
  induction writes generalizing contents with
  | nil =>
    constructor
    · exact fun h => ⟨contents, .nil, h⟩
    · rintro ⟨contents', hnil, h⟩
      cases hnil
      exact h
  | cons w writes ih =>
    constructor
    · intro h
      cases h with
      | cons hcall hrun h =>
        obtain ⟨contents', h, h'⟩ := ih.1 h
        exact ⟨contents', .cons hcall hrun h, h'⟩
    · rintro ⟨contents', h, h'⟩
      cases h with
      | cons hcall hrun h => exact .cons hcall hrun (ih.2 ⟨contents', h, h'⟩)

theorem snoc {w : Write} {change : Action Contents Reply} (h : Replays id writes contents contents')
    (hcall : w.call.change? id = some change)
    (hrun : change.apply contents' = (.ok w.reply, contents'')) :
    Replays id (writes ++ [w]) contents contents'' :=
  append_iff.2 ⟨contents', h, .cons hcall hrun .nil⟩

end Replays

/-! ## The journal explains the contents -/

/-- The committed contents come of the committed transactions, and what each open transaction
works on comes of its writes. -/
structure Accounts (first : Contents) (store : Store) (journal : Journal) : Prop where
  committed : Replays store.id journal.committed.flatten first store.shared.committed
  opened : ∀ handle, Option.Rel
    (fun writes contents => Replays store.id writes store.shared.committed contents)
    (journal.opened.get? handle) (store.pending? handle)

namespace Accounts

variable {first contents : Contents} {store store' : Store} {journal : Journal}
  {handle : HandleId} {writes : Transaction}

theorem of_pending? (h : Accounts first store journal)
    (hpending : store.pending? handle = some contents) :
    ∃ writes, journal.opened.get? handle = some writes ∧
      Replays store.id writes store.shared.committed contents := by
  have hopened := h.opened handle
  rw [hpending] at hopened
  generalize journal.opened.get? handle = writes? at hopened ⊢
  cases hopened with
  | some hreplays => exact ⟨_, rfl, hreplays⟩

theorem get?_of_pending?_none (h : Accounts first store journal)
    (hpending : store.pending? handle = none) : journal.opened.get? handle = none := by
  have hopened := h.opened handle
  rw [hpending] at hopened
  generalize journal.opened.get? handle = writes? at hopened ⊢
  cases hopened
  rfl

/-- The transaction of the handle is now this one. -/
theorem insert (h : Accounts first store journal) (hid : store'.id = store.id)
    (hcommitted : store'.shared.committed = store.shared.committed)
    (hpending : ∀ other, store'.pending? other =
      if other = handle then some contents else store.pending? other)
    (hreplays : Replays store.id writes store.shared.committed contents) :
    Accounts first store' { journal with opened := journal.opened.insert handle writes } := by
  refine ⟨by rw [hid, hcommitted]; exact h.committed, fun other => ?_⟩
  rw [hid, hcommitted, hpending, SortedMap.get?_insert]
  split
  · exact .some hreplays
  · exact h.opened other

/-- The handle has no transaction any more, and nothing was published. -/
theorem forget (h : Accounts first store journal) (hid : store'.id = store.id)
    (hcommitted : store'.shared.committed = store.shared.committed)
    (hpending : ∀ other, store'.pending? other =
      if other = handle then none else store.pending? other) :
    Accounts first store' (journal.forget handle) := by
  refine ⟨by rw [hid, hcommitted]; exact h.committed, fun other => ?_⟩
  rw [hid, hcommitted, hpending, Journal.forget, SortedMap.get?_erase]
  split
  · exact .none
  · exact h.opened other

/-- The handle, the only one with a transaction, published what it worked on. -/
theorem commit (h : Accounts first store journal) (hid : store'.id = store.id)
    (hbefore : store.pending? handle = some store'.shared.committed)
    (halone : ∀ other, other ≠ handle → store.pending? other = none)
    (hafter : ∀ other, store'.pending? other = none) :
    Accounts first store' (journal.commit handle) := by
  obtain ⟨writes, hopened, hreplays⟩ := h.of_pending? hbefore
  refine ⟨?_, fun other => ?_⟩
  · have hcommitted : (journal.commit handle).committed.flatten =
        journal.committed.flatten ++ writes := by
      simp [Journal.commit, hopened]
    rw [hcommitted, hid, Replays.append_iff]
    exact ⟨_, h.committed, hreplays⟩
  · -- Nobody is left whose transaction rests on what was committed before.
    rw [hafter, Journal.commit, SortedMap.get?_erase]
    split
    · exact .none
    · next hne =>
      rw [h.get?_of_pending?_none (halone other hne)]
      exact .none

end Accounts

theorem accounts_empty (store : Store) (h : ∀ handle, store.pending? handle = none) :
    Accounts store.shared.committed store .empty := by
  refine ⟨.nil, fun handle => ?_⟩
  rw [h]
  exact .none

variable {first : Contents} {store : Store} {journal : Journal} {handle : HandleId}
  {holder? : Option HandleId}

/-- What a call does is taken down. -/
theorem Accounts.called (h : Accounts first store journal) (hslot : store.Slot holder?)
    {connection connection' : Connection} {caller : Thread} {call : Call}
    {result : Except AccessError Reply} (hconnection : store.connection? handle = some connection)
    (hmove : connection.Move caller call result connection') :
    Accounts first (store.update handle connection')
      (journal.record (.call handle caller call, .called result)) := by
  have hstore := Store.shared_of_connection? hconnection
  have hid := Store.storeId_of_connection? hconnection
  have hbefore := Store.pending?_of_connection? hconnection
  have hpending := fun other => store.pending?_update handle other connection'
  cases hmove with
  | refuse =>
    rw [Store.update_eq hconnection, Journal.record_error]
    exact h
  | answer =>
    rw [Store.update_eq hconnection]
    exact h
  | begin =>
    refine h.insert rfl (by rw [← hstore]; rfl) hpending ?_
    rw [hstore]
    exact .nil
  | @commit contents hwrites =>
    have hwriting : store.IsWriting handle :=
      (Store.isWriting_of_connection? hconnection).2 hwrites.isSome
    have halone : ∀ other, other ≠ handle → store.pending? other = none := fun other hne =>
      hslot.pending?_eq_none hwriting hne
    refine h.commit rfl (hbefore.trans hwrites.pending) halone fun other => ?_
    rw [hpending]
    split
    · rfl
    · next hne => exact halone other hne
  | cancel => exact h.forget rfl (by rw [← hstore]; rfl) hpending
  | close =>
    refine h.forget rfl ?_ fun other => ?_
    · exact connection.discard_committed.trans (by rw [hstore])
    · rw [hpending, Connection.shut, connection.discard_pending]
  | closeAgain hclosed =>
    refine h.forget rfl (by rw [← hstore]; rfl) fun other => ?_
    rw [hpending, hslot.pending_of_closed (Store.get?_of_connection? hconnection) hclosed]
  | @write call change contents contents' reply hwrites hcall hrun =>
    obtain ⟨writes, hopened, hreplays⟩ := h.of_pending? (hbefore.trans hwrites.pending)
    rw [journal.record_write (Call.isWrite_of_change? hcall), Journal.note, hopened]
    refine h.insert rfl (by rw [← hstore]; rfl) hpending ?_
    exact hreplays.snoc (hid ▸ hcall) hrun

/-- **Every event is taken down**: the journal explains the contents after it as before. -/
theorem Accounts.move (h : Accounts first store journal) (hslot : store.Slot holder?)
    {store' : Store} {event : Event} {outcome : Outcome}
    (hmove : store.Move event outcome store') :
    Accounts first store' (journal.record (event, outcome)) := by
  cases hmove with
  | refuse => exact h
  | opened p =>
    refine ⟨h.committed, fun other => ?_⟩
    rw [hslot.pending?_opened]
    exact h.opened other
  | called hconnection hmove => exact h.called hslot hconnection hmove
  | @dropped handle connection hconnection =>
    refine h.forget rfl ?_ fun other => store.pending?_dropped handle other connection
    exact connection.discard_committed.trans (by rw [Store.shared_of_connection? hconnection])
  | absent =>
    rw [Journal.record_noHandle]
    exact h

/-- **The journal of a run explains what the run leaves**, by induction on the events. -/
theorem accounts_run (h : Accounts first store journal) (hslot : store.Slot holder?)
    (events : List Event) : Accounts first (store.run events).2
      ((events.zip (store.run events).1).foldl Journal.record journal) := by
  induction events generalizing store journal holder? with
  | nil => exact h
  | cons event events ih =>
    obtain ⟨holder'?, hslot'⟩ := hslot.step event
    rw [Store.run_cons, List.zip_cons_cons, List.foldl_cons]
    exact ih (h.move hslot (store.step_moves event)) hslot'

theorem accounts_ofHistory {start : Store} {id : StoreId} {classNames : List String}
    (hnew : Store.ofClasses id classNames = .ok start) (events : List Event) :
    Accounts start.shared.committed (start.run events).2
      (Journal.ofHistory (events.zip (start.run events).1)) := by
  refine accounts_run (accounts_empty start fun handle => ?_) (Store.slot_ofClasses hnew) events
  obtain ⟨contents, -, rfl⟩ := Store.ofClasses_eq_ok hnew
  rfl

end StoreAccess
