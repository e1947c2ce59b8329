import StoreAccess.Proofs.Store.Events

/-!
# Calls that fail

Many calls take several steps, and a step that was taken is not taken back when a later one fails.
Still a call that fails leaves the store as it was: every check stands before the first step that
changes anything (`Contents.settles_call`), and so a run is the same without the calls that failed
in it.

Main statement: `failures_leave_no_trace`.
-/

namespace StoreAccess

/-- Something was asked for and refused. -/
def Outcome.isFailure : Outcome → Bool
  | opened (.error _) | called (.error _) => true
  | opened (.ok _) | called (.ok _) | dropped | noHandle => false

theorem Connection.Move.eq_of_error {connection connection' : Connection} {caller : Thread}
    {call : Call} {error : AccessError}
    (h : connection.Move caller call (.error error) connection') : connection' = connection := by
  cases h
  rfl

namespace Store

variable {store : Store}

theorem Move.eq_of_isFailure {store' : Store} {event : Event} {outcome : Outcome}
    (h : store.Move event outcome store') (hfailure : outcome.isFailure = true) :
    store' = store := by
  cases h with
  | refuse | absent => rfl
  | opened | dropped => cases hfailure
  | @called handle caller call result connection connection' hconnection hmove =>
    cases result with
    | ok reply => cases hfailure
    | error error => rw [hmove.eq_of_error, update_eq hconnection]

theorem step_of_isFailure {event : Event} (h : (store.step event).1.isFailure = true) :
    (store.step event).2 = store :=
  (store.step_moves event).eq_of_isFailure h

/-- The events of a run that did not fail in it. -/
def unfailed (store : Store) (events : List Event) : List Event :=
  ((events.zip (store.run events).1).filter fun p => !p.2.isFailure).map Prod.fst

theorem unfailed_cons (store : Store) (event : Event) (events : List Event) :
    store.unfailed (event :: events) =
      if (store.step event).1.isFailure then (store.step event).2.unfailed events
      else event :: (store.step event).2.unfailed events := by
  unfold unfailed
  rw [run_cons, List.zip_cons_cons, List.filter_cons]
  cases (store.step event).1.isFailure <;> rfl

/-- A run without the events that failed in it goes as before. -/
theorem run_unfailed (store : Store) (events : List Event) :
    store.run (store.unfailed events) =
      ((store.run events).1.filter (!·.isFailure), (store.run events).2) := by
  induction events generalizing store with
  | nil => rfl
  | cons event events ih =>
    rw [unfailed_cons, run_cons, List.filter_cons]
    cases hfailure : (store.step event).1.isFailure with
    | true =>
      -- What failed left the store as it was, so the others find it as they did.
      rw [step_of_isFailure hfailure]
      exact ih store
    | false =>
      have hlast := ih (store.step event).2
      simp only [Bool.false_eq_true, if_false, Bool.not_false, if_true, run_cons, hlast]

/-- **A call that fails changes nothing**: the committed contents, the slot of the writer and
every handle with its transaction are as they were before. So every run gives the same store, and
the same outcomes of all other events, when the events that fail in it are left out. -/
theorem failures_leave_no_trace (store : Store) :
    (∀ event, (store.step event).1.isFailure = true → (store.step event).2 = store) ∧
    ∀ events, store.run (store.unfailed events) =
      ((store.run events).1.filter (!·.isFailure), (store.run events).2) :=
  ⟨fun _ => step_of_isFailure, store.run_unfailed⟩

/-- In a transaction, a member for a role that does not exist leaves no principal on record, and a
grant on a class that does not exist leaves no role. -/
theorem failures_leave_no_trace_in_transaction :
    let alice : Principal := ⟨"alice", by decide⟩
    let before : List Event :=
      [.openHandle ⟨0⟩ alice.text, .call ⟨0⟩ ⟨0⟩ .begin, .call ⟨0⟩ ⟨0⟩ (.createObject "Document")]
    let add : Event := .call ⟨0⟩ ⟨0⟩ (.request (.change (.addMember "ghosts" alice.text)))
    let grant : Event := .call ⟨0⟩ ⟨0⟩ (.grantOnClass "Ghost" "ghosts" .all)
    ∃ start : Store, Store.ofClasses ⟨0⟩ ["Document"] = .ok start ∧
      ((start.run before).2.step add).1.isFailure = true ∧
      ((start.run before).2.step add).2 = (start.run before).2 ∧
      ((start.run before).2.step grant).1.isFailure = true ∧
      ((start.run before).2.step grant).2 = (start.run before).2 := by
  intro alice before add grant
  have hnew : Store.ofClasses ⟨0⟩ ["Document"] = .ok _ := rfl
  refine ⟨_, hnew, ?_⟩
  simp only [before, run_cons, step_openHandle, Principal.parse_text]
  exact ⟨by decide +kernel, (failures_leave_no_trace _).1 add (by decide +kernel),
    by decide +kernel, (failures_leave_no_trace _).1 grant (by decide +kernel)⟩

end Store

end StoreAccess
