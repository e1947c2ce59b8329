import Mathlib.Logic.ExistsUnique
import StoreAccess.Proofs.Store.Events

/-!
# The slot of the writer

A store lets one handle write at a time. It keeps whether its slot is taken apart from the
transactions of the handles, and five operations change both. `Slot` says how the two go together,
and which handle holds the slot; `Reachable.slot` says that they do in every reachable store.

Main statement: `writer_slot_exact`.
-/

namespace StoreAccess

namespace Connection

/-- What becomes of the slot of the store and of the transaction of the handle: both stay as they
are, the handle takes the slot, or the handle frees it. -/
inductive Turn (connection connection' : Connection) : Prop
  | keep : connection'.shared.writing = connection.shared.writing →
      connection'.handle.pending.isSome = connection.handle.pending.isSome →
        Turn connection connection'
  | take : connection.shared.writing = false → connection'.shared.writing = true →
      connection'.handle.pending.isSome = true → Turn connection connection'
  | free : connection.handle.pending.isSome = true → connection'.shared.writing = false →
      connection'.handle.pending = none → Turn connection connection'

theorem discard_turn (connection : Connection) : connection.Turn connection.discard := by
  cases h : connection.handle.pending with
  | none =>
    rw [discard_of_none h]
    exact .keep rfl rfl
  | some contents =>
    rw [discard_of_some h]
    exact .free (by simp [h]) rfl rfl

section Moves

variable {connection connection' : Connection} {caller : Thread} {call : Call}
  {result : Except AccessError Reply}

theorem Writes.isSome {contents : Contents} (h : connection.Writes caller contents) :
    connection.handle.pending.isSome = true := by
  rw [h.pending, Option.isSome_some]

theorem Move.turn (h : connection.Move caller call result connection') :
    connection.Turn connection' := by
  cases h with
  | refuse | answer | closeAgain => exact .keep rfl rfl
  | begin husable hpending hfree => exact .take hfree rfl rfl
  | commit hwrites | cancel hwrites => exact .free hwrites.isSome rfl rfl
  | close hopen =>
    cases connection.discard_turn with
    | keep hwriting hpending => exact .keep hwriting hpending
    | take hfree hwriting hpending => exact .take hfree hwriting hpending
    | free hpending hwriting hnone => exact .free hpending hwriting hnone
  | write hwrites hcall hrun => exact .keep rfl hwrites.isSome.symm

/-- A closed handle gets no transaction, and one that is closed loses its own. -/
theorem Move.pending_of_closed (h : connection.Move caller call result connection')
    (hbefore : connection.handle.closed = true → connection.handle.pending = none)
    (hclosed : connection'.handle.closed = true) : connection'.handle.pending = none := by
  cases h with
  | refuse | answer | closeAgain => exact hbefore hclosed
  | commit | cancel => rfl
  | close => exact connection.discard_pending
  | begin husable =>
    have hopen := (requireUsable_eq_ok_iff.1 husable).1
    exact absurd hclosed (by simp [acquire, hopen])
  | write hwrites =>
    have hopen := (requireUsable_eq_ok_iff.1 hwrites.usable).1
    exact absurd hclosed (by simp [withPending, hopen])

end Moves

end Connection

namespace Store

/-- The slot of the store is held by this handle, or free if it is none. -/
structure Slot (store : Store) (holder? : Option HandleId) : Prop where
  writing_eq : store.shared.writing = holder?.isSome
  isWriting_iff : ∀ handle, store.IsWriting handle ↔ holder? = some handle
  pending_of_closed : ∀ {handle : HandleId} {found : Handle},
    store.handles.get? handle = some found → found.closed = true → found.pending = none
  /-- The numbers of the handles to come are not those of live handles. -/
  lt_nextHandle : ∀ {handle : HandleId} {found : Handle},
    store.handles.get? handle = some found → handle.number < store.nextHandle

variable {store : Store} {handle : HandleId} {holder? : Option HandleId}

theorem slot_ofClasses {id : StoreId} {classNames : List String}
    (h : Store.ofClasses id classNames = .ok store) : store.Slot none := by
  obtain ⟨contents, -, rfl⟩ := ofClasses_eq_ok h
  refine ⟨rfl, fun handle => ?_, ?_, ?_⟩
  · simp [IsWriting, pending?]
  · intro handle found hfound
    simp at hfound
  · intro handle found hfound
    simp at hfound

namespace Slot

theorem get?_nextHandle (h : store.Slot holder?) :
    store.handles.get? ⟨store.nextHandle⟩ = none := by
  cases hfound : store.handles.get? ⟨store.nextHandle⟩ with
  | none => rfl
  | some found => exact absurd (h.lt_nextHandle hfound) (Nat.lt_irrefl _)

theorem pending?_opened (h : store.Slot holder?) (p : Principal) (caller : Thread)
    (other : HandleId) : (store.opened p caller).pending? other = store.pending? other := by
  unfold pending?
  rw [get?_opened]
  split
  · next heq =>
    rw [heq, h.get?_nextHandle]
    rfl
  · rfl

theorem opened (h : store.Slot holder?) (p : Principal) (caller : Thread) :
    (store.opened p caller).Slot holder? := by
  refine ⟨h.writing_eq, fun other => ?_, ?_, ?_⟩
  · rw [IsWriting, h.pending?_opened]
    exact h.isWriting_iff other
  · intro other found hfound hclosed
    rw [get?_opened] at hfound
    split at hfound
    · rw [← Option.some.inj hfound]
      rfl
    · exact h.pending_of_closed hfound hclosed
  · intro other found hfound
    rw [get?_opened] at hfound
    have hnext : (store.opened p caller).nextHandle = store.nextHandle + 1 := rfl
    split at hfound
    · next heq =>
      rw [heq, hnext]
      exact Nat.lt_succ_self _
    · have := h.lt_nextHandle hfound
      omega

/-- Who holds the slot after the handle had its turn. -/
theorem turn (store' : Store) {connection connection' : Connection} (h : store.Slot holder?)
    (hconnection : store.connection? handle = some connection)
    (hturn : connection.Turn connection')
    (hshared : store'.shared.writing = connection'.shared.writing)
    (hpending : ∀ other, store'.pending? other =
      if other = handle then connection'.handle.pending else store.pending? other) :
    ∃ holder'? : Option HandleId, store'.shared.writing = holder'?.isSome ∧
      ∀ other, store'.IsWriting other ↔ holder'? = some other := by
  have hself : store'.IsWriting handle ↔ connection'.handle.pending.isSome = true := by
    rw [IsWriting, hpending, if_pos rfl]
  have hother : ∀ other, other ≠ handle → (store'.IsWriting other ↔ store.IsWriting other) := by
    intro other hne
    rw [IsWriting, hpending, if_neg hne, IsWriting]
  have hwas := isWriting_of_connection? hconnection
  have hstore := shared_of_connection? hconnection
  cases hturn with
  | keep hwriting hsame =>
    refine ⟨holder?, by rw [hshared, hwriting, hstore, h.writing_eq], fun other => ?_⟩
    by_cases heq : other = handle
    · rw [heq, hself, hsame, ← hwas, h.isWriting_iff]
    · rw [hother other heq, h.isWriting_iff]
  | take hfree hwriting hsome =>
    -- The slot was free, so no other handle has a transaction.
    have hnone : holder?.isSome = false := by rw [← h.writing_eq, ← hstore, hfree]
    rw [Option.isSome_eq_false_iff, Option.isNone_iff_eq_none] at hnone
    refine ⟨some handle, by rw [hshared, hwriting, Option.isSome_some], fun other => ?_⟩
    by_cases heq : other = handle
    · rw [heq, hself, hsome]
      simp
    · rw [hother other heq, h.isWriting_iff, hnone]
      simp [Ne.symm heq]
  | free hsome hwriting hnone =>
    -- The handle held the slot, and so no other handle has a transaction either.
    have hholder : holder? = some handle := (h.isWriting_iff handle).1 (hwas.2 hsome)
    refine ⟨none, by rw [hshared, hwriting, Option.isSome_none], fun other => ?_⟩
    by_cases heq : other = handle
    · rw [heq, hself, hnone]
      simp
    · rw [hother other heq, h.isWriting_iff, hholder]
      simp [Ne.symm heq]

theorem update {connection connection' : Connection} {caller : Thread} {call : Call}
    {result : Except AccessError Reply} (h : store.Slot holder?)
    (hconnection : store.connection? handle = some connection)
    (hmove : connection.Move caller call result connection') :
    ∃ holder'?, (store.update handle connection').Slot holder'? := by
  obtain ⟨holder'?, hwriting, hiff⟩ := h.turn _ hconnection hmove.turn rfl fun other =>
    pending?_update store handle other connection'
  have hfound := get?_of_connection? hconnection
  refine ⟨holder'?, hwriting, hiff, ?_, ?_⟩
  · intro other found hget hclosed
    rw [get?_update] at hget
    split at hget
    · obtain rfl := Option.some.inj hget
      exact hmove.pending_of_closed (h.pending_of_closed hfound) hclosed
    · exact h.pending_of_closed hget hclosed
  · intro other found hget
    rw [get?_update] at hget
    split at hget
    · next heq =>
      rw [heq]
      exact h.lt_nextHandle hfound
    · exact h.lt_nextHandle hget

theorem dropped {connection : Connection} (h : store.Slot holder?)
    (hconnection : store.connection? handle = some connection) :
    ∃ holder'?, (store.dropped handle connection).Slot holder'? := by
  obtain ⟨holder'?, hwriting, hiff⟩ := h.turn (store.dropped handle connection)
    hconnection connection.discard_turn rfl fun other => by
      rw [pending?_dropped, connection.discard_pending]
  refine ⟨holder'?, hwriting, hiff, ?_, ?_⟩
  · intro other found hget hclosed
    rw [get?_dropped] at hget
    split at hget
    · cases hget
    · exact h.pending_of_closed hget hclosed
  · intro other found hget
    rw [get?_dropped] at hget
    split at hget
    · cases hget
    · exact h.lt_nextHandle hget

/-- Whatever happens, the slot keeps agreeing with the transactions. -/
theorem move {store' : Store} {event : Event} {outcome : Outcome} (h : store.Slot holder?)
    (hmove : store.Move event outcome store') : ∃ holder'?, store'.Slot holder'? := by
  cases hmove with
  | refuse | absent => exact ⟨holder?, h⟩
  | opened p => exact ⟨holder?, h.opened p _⟩
  | called hconnection hmove => exact h.update hconnection hmove
  | dropped hconnection => exact h.dropped hconnection

theorem step (h : store.Slot holder?) (event : Event) :
    ∃ holder'?, (store.step event).2.Slot holder'? :=
  h.move (store.step_moves event)

end Slot

theorem Reachable.slot (h : store.Reachable) : ∃ holder?, store.Slot holder? := by
  induction h with
  | ofClasses hnew => exact ⟨none, slot_ofClasses hnew⟩
  | step event _ ih =>
    obtain ⟨holder?, hslot⟩ := ih
    exact hslot.step event

/-! ## Who may begin a transaction -/

theorem Slot.writing_iff (h : store.Slot holder?) :
    store.shared.writing = true ↔ ∃ handle, store.IsWriting handle := by
  rw [h.writing_eq, Option.isSome_iff_exists]
  exact exists_congr fun handle => (h.isWriting_iff handle).symm

theorem Slot.eq_of_isWriting (h : store.Slot holder?) {other : HandleId}
    (hhandle : store.IsWriting handle) (hother : store.IsWriting other) : handle = other := by
  rw [h.isWriting_iff] at hhandle hother
  exact Option.some.inj (hhandle.symm.trans hother)

theorem Slot.pending?_eq_none (h : store.Slot holder?) {other : HandleId}
    (hwriting : store.IsWriting handle) (hne : other ≠ handle) : store.pending? other = none := by
  rw [← Option.not_isSome_iff_eq_none]
  exact fun hother => hne (h.eq_of_isWriting hother hwriting)

/-- While a handle writes, beginning a transaction through any usable handle is a conflict. -/
theorem Slot.step_begin_of_isWriting (h : store.Slot holder?) {connection : Connection}
    {caller : Thread} {writer : HandleId} (hconnection : store.connection? handle = some connection)
    (husable : connection.requireUsable caller = .ok ()) (hwriter : store.IsWriting writer) :
    ∃ detail, store.step (.call handle caller .begin) =
      (.called (.error (.conflict detail)), store) := by
  have hstore := shared_of_connection? hconnection
  cases hpending : connection.handle.pending with
  | some contents =>
    rw [step_call hconnection (Connection.apply_begin_of_pending husable hpending),
      update_eq hconnection]
    exact ⟨_, rfl⟩
  | none =>
    have hwriting : connection.shared.writing = true := hstore ▸ h.writing_iff.2 ⟨writer, hwriter⟩
    rw [step_call hconnection (Connection.apply_begin_of_writing husable hpending hwriting),
      update_eq hconnection]
    exact ⟨_, rfl⟩

/-- While no handle writes, beginning a transaction through a usable handle succeeds. -/
theorem Slot.step_begin_of_not_isWriting (h : store.Slot holder?) {connection : Connection}
    {caller : Thread} (hconnection : store.connection? handle = some connection)
    (husable : connection.requireUsable caller = .ok ())
    (hnone : ¬ ∃ writer, store.IsWriting writer) :
    store.step (.call handle caller .begin) =
      (.called (.ok .done), store.update handle connection.acquire) := by
  have hstore := shared_of_connection? hconnection
  have hfree : connection.shared.writing = false := by
    rw [hstore, ← Bool.not_eq_true, h.writing_iff]
    exact hnone
  have hpending : connection.handle.pending = none := by
    rw [← Option.not_isSome_iff_eq_none, ← isWriting_of_connection? hconnection]
    exact fun hwriting => hnone ⟨handle, hwriting⟩
  exact step_call hconnection (Connection.apply_begin husable hpending hfree)

/-- **The slot is never leaked and never held twice.** In every reachable store the slot is taken
exactly when one live handle has a transaction, no two handles have one, and a closed handle has
none. Beginning a transaction through a usable handle succeeds exactly when no live handle has
one, and is otherwise a conflict that changes nothing. -/
theorem writer_slot_exact (h : store.Reachable) :
    (store.shared.writing = true ↔ ∃! handle, store.IsWriting handle) ∧
    (∀ handle other, store.IsWriting handle → store.IsWriting other → handle = other) ∧
    (∀ handle found, store.handles.get? handle = some found → found.closed = true →
      found.pending = none) ∧
    ∀ handle found, store.handles.get? handle = some found → found.closed = false →
      ((store.step (.call handle found.owner .begin)).1 = .called (.ok .done) ↔
        ¬ ∃ writer, store.IsWriting writer) ∧
      ((∃ writer, store.IsWriting writer) → ∃ detail,
        store.step (.call handle found.owner .begin) =
          (.called (.error (.conflict detail)), store)) := by
  obtain ⟨holder?, hslot⟩ := h.slot
  refine ⟨?_, fun _ _ => hslot.eq_of_isWriting, fun _ _ => hslot.pending_of_closed, ?_⟩
  · rw [hslot.writing_iff]
    constructor
    · rintro ⟨handle, hwriting⟩
      exact ⟨handle, hwriting, fun other hother => hslot.eq_of_isWriting hother hwriting⟩
    · exact ExistsUnique.exists
  · intro handle found hfound hopen
    have hconnection : store.connection? handle = some ⟨store.id, store.shared, found⟩ :=
      connection?_eq_some_iff.2 ⟨hfound, rfl, rfl⟩
    have husable : Connection.requireUsable ⟨store.id, store.shared, found⟩ found.owner = .ok () :=
      Connection.requireUsable_eq_ok_iff.2 ⟨hopen, rfl⟩
    have hconflict : (∃ writer, store.IsWriting writer) → ∃ detail,
        store.step (.call handle found.owner .begin) =
          (.called (.error (.conflict detail)), store) := by
      rintro ⟨writer, hwriter⟩
      exact hslot.step_begin_of_isWriting hconnection husable hwriter
    refine ⟨⟨fun hdone hwriter => ?_, fun hnone => ?_⟩, hconflict⟩
    · obtain ⟨detail, hstep⟩ := hconflict hwriter
      rw [hstep] at hdone
      cases hdone
    · rw [hslot.step_begin_of_not_isWriting hconnection husable hnone]

theorem writer_slot_exact_two_handles :
    let alice : Principal := ⟨"alice", by decide⟩
    let bob : Principal := ⟨"bob", by decide⟩
    let events : List Event :=
      [.openHandle ⟨0⟩ alice.text, .openHandle ⟨1⟩ bob.text, .call ⟨0⟩ ⟨0⟩ .begin]
    ∃ start : Store, Store.ofClasses ⟨0⟩ ["Document"] = .ok start ∧
      (start.run events).2.shared.writing = true ∧
      (∃! handle, (start.run events).2.IsWriting handle) ∧
      ∃ detail, ((start.run events).2.step (.call ⟨1⟩ ⟨1⟩ .begin)).1 =
        .called (.error (.conflict detail)) := by
  intro alice bob events
  have hnew : Store.ofClasses ⟨0⟩ ["Document"] = .ok _ := rfl
  refine ⟨_, hnew, ?_⟩
  obtain ⟨hiff, -, -, hbegin⟩ := writer_slot_exact ((Reachable.ofClasses hnew).run events)
  simp only [events, run_cons, step_openHandle, Principal.parse_text] at hiff hbegin ⊢
  have hunique := hiff.1 rfl
  refine ⟨rfl, hunique, ?_⟩
  obtain ⟨detail, hstep⟩ := (hbegin ⟨1⟩ (.ofPrincipal bob ⟨1⟩) rfl rfl).2 hunique.exists
  exact ⟨detail, congrArg Prod.fst hstep⟩

end Store

end StoreAccess
