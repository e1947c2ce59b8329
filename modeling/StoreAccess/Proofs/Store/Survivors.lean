import Mathlib.Data.List.Perm.Subperm
import StoreAccess.Proofs.Store.Effects
import StoreAccess.Proofs.Store.Journal

/-!
# The writes that survive a run

A write of a run survives if its transaction is committed or still open. Surviving writes are some
of the writes of the run, each counted once, and they explain what every handle sees. What is
committed stays so.

Main statements: `survivors_run`, `kept_run` and `replays_seenBy`.
-/

namespace StoreAccess

/-! ## Values of maps -/

namespace SortedMap

variable {κ ν : Type} [Ord κ] [Std.LawfulEqOrd κ]

theorem nodup_entries (m : SortedMap κ ν) : m.entries.Nodup := by
  refine m.ascending.imp fun hlt heq => ?_
  simp [heq] at hlt

variable [Std.TransOrd κ] [DecidableEq κ]

theorem mem_entries_insert {m : SortedMap κ ν} {k : κ} {v : ν} {e : κ × ν} :
    e ∈ (m.insert k v).entries ↔ e = (k, v) ∨ e ∈ (m.erase k).entries := by
  obtain ⟨k', v'⟩ := e
  rw [← get?_eq_some_iff, ← get?_eq_some_iff, get?_insert, get?_erase]
  by_cases hk : k' = k
  · simp [hk, eq_comm]
  · simp [hk]

/-- What is inserted stands beside the values under other keys. -/
theorem values_insert (m : SortedMap κ ν) (k : κ) (v : ν) :
    (m.insert k v).values.Perm (v :: (m.erase k).values) := by
  have hnew : (k, v) ∉ (m.erase k).entries := by
    rw [← get?_eq_some_iff, get?_erase, if_pos rfl]
    simp
  have hentries : (m.insert k v).entries.Perm ((k, v) :: (m.erase k).entries) :=
    (List.perm_ext_iff_of_nodup (nodup_entries _)
      (List.nodup_cons.2 ⟨hnew, nodup_entries _⟩)).2 fun e => by
        rw [mem_entries_insert, List.mem_cons]
  exact hentries.map _

theorem values_erase (m : SortedMap κ ν) (k : κ) :
    m.values.Perm ((m.get? k).toList ++ (m.erase k).values) := by
  cases hfound : m.get? k with
  | none =>
    rw [erase_of_get?_none hfound]
    exact .refl _
  | some v =>
    have hvalues := m.values_insert k v
    rwa [insert_of_get? hfound] at hvalues

end SortedMap

/-! ## Objects that writes create and delete -/

/-- The object that a write created. -/
def Write.created? (w : Write) : Option ObjectRef :=
  match w.call.creates?, w.reply with
  | some _, .object object => some object
  | _, _ => none

/-- The object that a write deleted, which was there. -/
def Write.deleted? (w : Write) : Option ObjectRef :=
  match w.call, w.reply with
  | .deleteObject object, .flag true => some object
  | _, _ => none

namespace Transaction

/-- References to the objects that a transaction created, in order. -/
def created (writes : Transaction) : List ObjectRef := writes.filterMap Write.created?

/-- References to the objects that a transaction deleted, in order. -/
def deleted (writes : Transaction) : List ObjectRef := writes.filterMap Write.deleted?

variable {writes writes' : Transaction}

theorem created_append (writes writes' : Transaction) :
    created (writes ++ writes') = created writes ++ created writes' :=
  List.filterMap_append

theorem created_snoc (writes : Transaction) (w : Write) :
    created (writes ++ [w]) = created writes ++ w.created?.toList := by
  rw [created_append]
  cases h : w.created? <;> simp [created, h]

theorem created_snoc_of_none (writes : Transaction) {w : Write} (h : w.created? = none) :
    created (writes ++ [w]) = created writes := by
  rw [created_snoc, h, Option.toList_none, List.append_nil]

theorem deleted_snoc (writes : Transaction) (w : Write) :
    deleted (writes ++ [w]) = deleted writes ++ w.deleted?.toList := by
  rw [deleted, List.filterMap_append, ← deleted]
  cases h : w.deleted? <;> simp [h]

theorem deleted_snoc_of_none (writes : Transaction) {w : Write} (h : w.deleted? = none) :
    deleted (writes ++ [w]) = deleted writes := by
  rw [deleted_snoc, h, Option.toList_none, List.append_nil]

theorem created_subset (h : writes <+: writes') : created writes ⊆ created writes' :=
  (h.filterMap _).subset

theorem deleted_subset (h : writes <+: writes') : deleted writes ⊆ deleted writes' :=
  (h.filterMap _).subset

theorem created_subperm (h : writes.Subperm writes') :
    (created writes).Subperm (created writes') := by
  obtain ⟨between, hperm, hsublist⟩ := h
  exact ⟨created between, hperm.filterMap _, hsublist.filterMap _⟩

end Transaction

/-! ## What one event adds to the journal -/

namespace Journal

/-- The writing call that succeeded, if the event was one. -/
def written? : Event × Outcome → Option Write
  | (.call _ _ call, .called (.ok reply)) => if call.isWrite then some ⟨call, reply⟩ else none
  | _ => none

/-- The writes of transactions that were committed. -/
def kept (journal : Journal) : Transaction := journal.committed.flatten

/-- The writes of transactions that were committed or are open. -/
def survivors (journal : Journal) : Transaction := journal.kept ++ journal.opened.values.flatten

/-- The writes of the transaction that a handle has, if it has one. -/
def openedBy (journal : Journal) (handle : HandleId) : Transaction :=
  (journal.opened.get? handle).getD []

/-- The writes that a handle sees: what is committed, and those of its own transaction. -/
def seenBy (journal : Journal) (handle : HandleId) : Transaction :=
  journal.kept ++ journal.openedBy handle

/-- What the journal can become by one event, with the write of the event. -/
inductive Recorded (journal : Journal) : Option Write → Journal → Prop
  | skip : Recorded journal none journal
  | start (handle : HandleId) : Recorded journal none (journal.start handle)
  | note (handle : HandleId) (w : Write) : Recorded journal (some w) (journal.note handle w)
  | commit (handle : HandleId) : Recorded journal none (journal.commit handle)
  | forget (handle : HandleId) : Recorded journal none (journal.forget handle)

theorem record_recorded (journal : Journal) (p : Event × Outcome) :
    journal.Recorded (written? p) (journal.record p) := by
  obtain ⟨event, outcome⟩ := p
  cases event with
  | openHandle => exact .skip
  | dropHandle handle =>
    cases outcome with
    | dropped => exact .forget handle
    | opened | called | noHandle => exact .skip
  | call handle caller call =>
    cases outcome with
    | opened | dropped | noHandle => cases call <;> exact .skip
    | called result =>
      rcases result with error | reply
      · rw [record_error]
        exact .skip
      · cases hwrite : call.isWrite with
        | true =>
          rw [record_write journal hwrite, written?, if_pos hwrite]
          exact .note handle ⟨call, reply⟩
        | false =>
          rw [written?, hwrite]
          cases call with
          | begin => exact .start handle
          | commit => exact .commit handle
          | cancel | close => exact .forget handle
          | createObject | createTyped | deleteObject | grantOnStore | grantOnClass
          | grantOnObject => cases hwrite
          | request request =>
            cases request with
            | query query => exact .skip
            | change change => cases hwrite

/-- The writes of one transaction stand beside those of the others. -/
theorem opened_perm (journal : Journal) (handle : HandleId) :
    journal.opened.values.flatten.Perm
      (journal.openedBy handle ++ (journal.opened.erase handle).values.flatten) := by
  have hvalues := (journal.opened.values_erase handle).flatten
  unfold openedBy
  cases hfound : journal.opened.get? handle with
  | none => simpa [hfound] using hvalues
  | some writes => simpa [hfound] using hvalues

theorem survivors_perm (journal : Journal) (handle : HandleId) :
    journal.survivors.Perm
      (journal.seenBy handle ++ (journal.opened.erase handle).values.flatten) := by
  rw [survivors, seenBy, List.append_assoc]
  exact (journal.opened_perm handle).append_left _

theorem seenBy_subperm (journal : Journal) (handle : HandleId) :
    (journal.seenBy handle).Subperm journal.survivors :=
  (List.sublist_append_left ..).subperm.trans (journal.survivors_perm handle).symm.subperm

/-- What survives is what a transaction wrote and what survives if it is forgotten. -/
theorem survivors_perm_forget (journal : Journal) (handle : HandleId) :
    journal.survivors.Perm
      (journal.openedBy handle ++ (journal.forget handle).survivors) := by
  have hperm := journal.survivors_perm handle
  rw [seenBy, List.append_assoc] at hperm
  exact hperm.trans (List.perm_append_comm_assoc ..)

theorem forget_subperm (journal : Journal) (handle : HandleId) :
    (journal.forget handle).survivors.Subperm journal.survivors :=
  (List.sublist_append_right ..).subperm.trans (journal.survivors_perm_forget handle).symm.subperm

/-- Whatever one event does to the journal, nothing survives but what did before, and its write. -/
theorem Recorded.survivors_subperm {journal journal' : Journal} {w? : Option Write}
    (h : journal.Recorded w? journal') :
    journal'.survivors.Subperm (journal.survivors ++ w?.toList) := by
  cases h with
  | skip =>
    rw [Option.toList_none, List.append_nil]
  | start handle =>
    rw [Option.toList_none, List.append_nil]
    have hafter : (journal.start handle).survivors.Perm (journal.forget handle).survivors :=
      (journal.opened.values_insert handle []).flatten.append_left _
    exact hafter.subperm.trans (journal.forget_subperm handle)
  | note handle w =>
    have hafter := (journal.opened.values_insert handle
      (journal.openedBy handle ++ [w])).flatten.append_left journal.kept
    have hbefore := (journal.survivors_perm handle).append_right [w]
    -- The write moves from the end of its transaction to the end of all.
    have hmove : (journal.kept ++ (journal.openedBy handle ++ [w] ++
        (journal.opened.erase handle).values.flatten)).Perm
          (journal.seenBy handle ++ (journal.opened.erase handle).values.flatten ++ [w]) := by
      simp only [seenBy, List.append_assoc]
      exact (List.perm_append_comm.append_left _).append_left _
    exact (hafter.trans (hmove.trans hbefore.symm)).subperm
  | commit handle =>
    have hafter : (journal.commit handle).survivors =
        journal.seenBy handle ++ (journal.opened.erase handle).values.flatten := by
      cases hfound : journal.opened.get? handle <;>
        simp [survivors, kept, Journal.commit, seenBy, openedBy, hfound]
    rw [Option.toList_none, List.append_nil, hafter]
    exact (journal.survivors_perm handle).symm.subperm
  | forget handle =>
    rw [Option.toList_none, List.append_nil]
    exact journal.forget_subperm handle

/-- Nothing that is committed is lost or changed. -/
theorem Recorded.committed_grows {journal journal' : Journal} {w? : Option Write}
    (h : journal.Recorded w? journal') : journal.committed <+: journal'.committed := by
  cases h with
  | skip | start | note | forget => exact List.prefix_refl _
  | commit => exact List.prefix_append ..

/-! ## Runs -/

theorem survivors_foldl (journal : Journal) (history : List (Event × Outcome)) :
    (history.foldl record journal).survivors.Subperm
      (journal.survivors ++ history.filterMap written?) := by
  induction history generalizing journal with
  | nil => rw [List.filterMap_nil, List.append_nil, List.foldl_nil]
  | cons p history ih =>
    have hhere := (journal.record_recorded p).survivors_subperm
    have hlater := ih (journal.record p)
    have hboth := hlater.trans ((List.subperm_append_right _).2 hhere)
    rw [List.append_assoc] at hboth
    cases hwrite : written? p with
    | none => simpa [hwrite] using hboth
    | some w => simpa [hwrite] using hboth

theorem committed_foldl (journal : Journal) (history : List (Event × Outcome)) :
    journal.committed <+: (history.foldl record journal).committed := by
  induction history generalizing journal with
  | nil => exact List.prefix_refl _
  | cons p history ih =>
    exact (journal.record_recorded p).committed_grows.trans (ih (journal.record p))

end Journal

namespace Store

variable {start store : Store} {handle : HandleId}

/-- The events of a run with what came of them. -/
def history (store : Store) (events : List Event) : List (Event × Outcome) :=
  events.zip (store.run events).1

/-- What is known of the transactions of a run. -/
def journal (store : Store) (events : List Event) : Journal := .ofHistory (store.history events)

/-- All writes of a run, in order, also those of transactions that left nothing. -/
def writes (store : Store) (events : List Event) : Transaction :=
  (store.history events).filterMap Journal.written?

theorem history_append (store : Store) (events later : List Event) :
    store.history (events ++ later) =
      store.history events ++ (store.run events).2.history later := by
  rw [history, run_append, List.zip_append (by rw [length_run]), history, history]

theorem journal_append (store : Store) (events later : List Event) :
    store.journal (events ++ later) =
      ((store.run events).2.history later).foldl Journal.record (store.journal events) := by
  rw [journal, history_append, Journal.ofHistory, List.foldl_append, ← Journal.ofHistory,
    ← journal]

/-- **What survives** the rest of a run are writes of it and writes that survived until then. -/
theorem survivors_run (store : Store) (events later : List Event) :
    (store.journal (events ++ later)).survivors.Subperm
      ((store.journal events).survivors ++ (store.run events).2.writes later) := by
  rw [journal_append]
  exact Journal.survivors_foldl ..

theorem survivors_subperm_writes (store : Store) (events : List Event) :
    (store.journal events).survivors.Subperm (store.writes events) :=
  store.survivors_run [] events

/-- **What is committed** is not lost in the rest of a run. -/
theorem kept_run (store : Store) (events later : List Event) :
    (store.journal events).kept <+: (store.journal (events ++ later)).kept := by
  obtain ⟨rest, hrest⟩ := Journal.committed_foldl (store.journal events)
    ((store.run events).2.history later)
  rw [journal_append, Journal.kept, Journal.kept, ← hrest, List.flatten_append]
  exact List.prefix_append ..

/-! ## What survives explains what is seen -/

/-- The journal of a run of a new store explains its contents. -/
theorem accounts_journal {id : StoreId} {classNames : List String}
    (hnew : Store.ofClasses id classNames = .ok start) (events : List Event) :
    Accounts start.shared.committed (start.run events).2 (start.journal events) :=
  accounts_ofHistory hnew events

end Store

namespace Accounts

variable {first : Contents} {store : Store} {journal : Journal} {handle : HandleId}

/-- **What a handle sees** comes of the committed writes and those of its transaction. -/
theorem replays_seenBy (h : Accounts first store journal) (handle : HandleId) :
    Replays store.id (journal.seenBy handle) first
      ((store.pending? handle).getD store.shared.committed) := by
  rw [Journal.seenBy, Replays.append_iff]
  refine ⟨_, h.committed, ?_⟩
  cases hpending : store.pending? handle with
  | none =>
    rw [Journal.openedBy, h.get?_of_pending?_none hpending]
    exact .nil
  | some contents =>
    obtain ⟨writes, hopened, hreplays⟩ := h.of_pending? hpending
    rw [Journal.openedBy, hopened]
    exact hreplays

theorem replays_visible {connection : Connection} (h : Accounts first store journal)
    (hconnection : store.connection? handle = some connection) :
    Replays store.id (journal.seenBy handle) first connection.visible := by
  have hreplays := h.replays_seenBy handle
  rwa [Store.pending?_of_connection? hconnection,
    ← Store.shared_of_connection? hconnection, ← Connection.visible] at hreplays

theorem seenBy_eq_kept (h : Accounts first store journal)
    (hpending : store.pending? handle = none) : journal.seenBy handle = journal.kept := by
  rw [Journal.seenBy, Journal.openedBy, h.get?_of_pending?_none hpending, Option.getD_none,
    List.append_nil]

/-- As one handle writes at most, everything that survives is seen by one handle. -/
theorem survivors_perm_seenBy (h : Accounts first store journal) {holder? : Option HandleId}
    (hslot : store.Slot holder?) : ∃ writer, journal.survivors.Perm (journal.seenBy writer) := by
  -- Where nobody writes, any handle will do.
  obtain ⟨writer, hwriter⟩ : ∃ writer, ∀ other, other ≠ writer → store.pending? other = none := by
    cases holder? with
    | none =>
      refine ⟨⟨0⟩, fun other _ => ?_⟩
      rw [← Option.not_isSome_iff_eq_none]
      intro hwriting
      cases (hslot.isWriting_iff other).1 hwriting
    | some writer =>
      have hwriting := (hslot.isWriting_iff writer).2 rfl
      exact ⟨writer, fun other hne => hslot.pending?_eq_none hwriting hne⟩
  have hrest : journal.opened.erase writer = .empty := by
    refine SortedMap.ext_get? fun other => ?_
    rw [SortedMap.get?_erase, SortedMap.get?_empty]
    split
    · rfl
    · next hne => exact h.get?_of_pending?_none (hwriter other hne)
  have hperm := journal.survivors_perm writer
  rw [hrest] at hperm
  exact ⟨writer, by simpa [SortedMap.values, SortedMap.empty] using hperm⟩

end Accounts

end StoreAccess
