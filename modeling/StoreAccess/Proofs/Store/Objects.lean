import Mathlib.Data.List.Nodup
import StoreAccess.Proofs.Store.Isolation
import StoreAccess.Proofs.Store.Survivors

/-!
# The identity of objects

A store numbers its objects one after the other, by a counter that is part of its contents. The
counter is rolled back with a transaction that is dropped, so the numbers are counted along the
writes that survive, not along all of a run: `Numbered` says that the objects these writes created
have the numbers from one on, and that the objects that are there are those which were created and
not deleted. It holds as long as the counter does not overflow.

Main statement: `objects_keep_identity`.
-/

namespace StoreAccess

namespace Contents

/-- What a write that succeeds has done to the objects: it created one with the next key, deleted
one that was there, or did neither. -/
inductive ObjectsAfter (id : StoreId) (contents : Contents) (w : Write) (contents' : Contents) :
    Prop
  | creates {object : ObjectRef} :
      w.created? = some object → w.deleted? = none → object.storeId = some id →
        contents.hasClass object.className = true → object.key.number = contents.nextKey →
          contents'.objects = contents.objects.insert object.id .empty →
            contents'.nextKey = contents.nextKey + 1 → ObjectsAfter id contents w contents'
  | deletes {object : ObjectRef} :
      w.created? = none → w.deleted? = some object → object.storeId = some id →
        contents.objects.contains object.id = true →
          contents'.objects = contents.objects.erase object.id →
            contents'.nextKey = contents.nextKey → ObjectsAfter id contents w contents'
  | keeps :
      w.created? = none → w.deleted? = none →
        (∀ key, contents'.objects.contains key = contents.objects.contains key) →
          contents'.nextKey = contents.nextKey → ObjectsAfter id contents w contents'

variable {id : StoreId} {contents contents' : Contents} {w : Write}

theorem deleted?_of_creates? {call : Call} {className : String} (reply : Reply)
    (h : call.creates? = some className) : Write.deleted? ⟨call, reply⟩ = none := by
  cases call with
  | createObject | createTyped => rfl
  | begin | commit | cancel | close | deleteObject | grantOnStore | grantOnClass | grantOnObject
  | request => cases h

theorem Effect.objectsAfter (h : Effect id contents w.call w.reply contents') :
    ObjectsAfter id contents w contents' := by
  obtain ⟨call, reply⟩ := w
  cases h with
  | @createObject _ className hcreates hclass =>
    have hcreated : Write.created? ⟨call, .object (.managed id className ⟨contents.nextKey⟩)⟩ =
        some (.managed id className ⟨contents.nextKey⟩) := by
      simp only [Write.created?, hcreates]
    exact .creates hcreated (deleted?_of_creates? _ hcreates) rfl hclass rfl rfl rfl
  | @deleteObject object howned =>
    cases hcontains : contents.objects.contains object.id with
    | true =>
      have hdeleted : Write.deleted? ⟨.deleteObject object, .flag true⟩ = some object := rfl
      exact .deletes rfl (hcontains ▸ hdeleted) howned hcontains rfl rfl
    | false =>
      have hdeleted : Write.deleted? ⟨.deleteObject object, .flag false⟩ = none := rfl
      have hnone : contents.objects.get? object.id = none := by
        simpa [SortedMap.contains] using hcontains
      exact .keeps rfl (hcontains ▸ hdeleted)
        (fun key => by rw [SortedMap.erase_of_get?_none hnone]) rfl
  | grantOnObject howned hgrants =>
    exact .keeps rfl rfl (SortedMap.contains_insert_of_get? hgrants) rfl
  | grantOnStore | grantOnClass | createRole | recordPrincipal | addMember | insertMember
  | removeMember => exact .keeps rfl rfl (fun _ => rfl) rfl

end Contents

/-- What holds of the first contents, and is kept by a write that succeeds, holds of what a replay
leads to and the writes replayed. -/
theorem Replays.along {P : Transaction → Contents → Prop} {id : StoreId} {writes : Transaction}
    {first last : Contents} (h : Replays id writes first last) (hfirst : P [] first)
    (hwrite : ∀ {before w contents contents'}, P before contents →
      contents.Effect id w.call w.reply contents' → P (before ++ [w]) contents') :
    P writes last := by
  -- The induction carries what was written before.
  suffices hafter : ∀ before, P before first → P (before ++ writes) last from hafter [] hfirst
  intro before hbefore
  clear hfirst
  induction h generalizing before with
  | nil => rwa [List.append_nil]
  | @cons w writes change contents contents' contents'' hcall hrun _ ih =>
    have hnext := ih (before ++ [w]) (hwrite hbefore (Contents.effect_of_call hcall hrun))
    rwa [List.append_assoc] at hnext

/-! ## Objects that are there were created -/

/-- The objects created are of the store and of its classes, and what is there was created. -/
structure Traced (id : StoreId) (writes : Transaction) (contents : Contents) : Prop where
  storeId : ∀ {object}, object ∈ writes.created → object.storeId = some id
  hasClass : ∀ {object}, object ∈ writes.created → contents.hasClass object.className = true
  of_contains : ∀ {object : ObjectRef}, object.storeId = some id →
    contents.objects.contains object.id = true → object ∈ writes.created

section Steps

variable {id : StoreId} {writes : Transaction} {contents contents' : Contents} {w : Write}

theorem traced_nil (h : contents.objects = .empty) : Traced id [] contents where
  storeId hobject := by cases hobject
  hasClass hobject := by cases hobject
  of_contains _ hcontains := by
    rw [h] at hcontains
    cases hcontains

theorem Traced.of_created? (h : Traced id writes contents) (hcreated : w.created? = none)
    (hclasses : ∀ className, contents'.hasClass className = contents.hasClass className)
    (hfewer : ∀ key, contents'.objects.contains key = true → contents.objects.contains key = true) :
    Traced id (writes ++ [w]) contents' := by
  have hsame := Transaction.created_snoc_of_none writes hcreated
  refine ⟨fun hobject => ?_, fun hobject => ?_, fun hobject hcontains => ?_⟩
  · exact h.storeId (hsame ▸ hobject)
  · rw [hclasses]
    exact h.hasClass (hsame ▸ hobject)
  · rw [hsame]
    exact h.of_contains hobject (hfewer _ hcontains)

theorem Traced.write (h : Traced id writes contents)
    (heffect : contents.Effect id w.call w.reply contents') :
    Traced id (writes ++ [w]) contents' := by
  have hclasses := heffect.hasClass_eq
  cases heffect.objectsAfter with
  | @creates new hcreated _ howned hclass _ hobjects =>
    have hmem : ∀ {object}, object ∈ Transaction.created (writes ++ [w]) ↔
        object ∈ writes.created ∨ object = new := by
      intro object
      rw [Transaction.created_snoc, hcreated, Option.toList_some, List.mem_append,
        List.mem_singleton]
    refine ⟨fun hobject => ?_, fun hobject => ?_, fun hobject hcontains => ?_⟩
    · rcases hmem.1 hobject with hobject | rfl
      · exact h.storeId hobject
      · exact howned
    · rw [hclasses]
      rcases hmem.1 hobject with hobject | rfl
      · exact h.hasClass hobject
      · exact hclass
    · rw [hobjects, SortedMap.contains_insert, Bool.or_eq_true, decide_eq_true_eq] at hcontains
      rcases hcontains with hid | hcontains
      · exact hmem.2 (.inr (ObjectRef.eq_of_id_eq hobject howned hid))
      · exact hmem.2 (.inl (h.of_contains hobject hcontains))
  | deletes hcreated _ _ _ hobjects =>
    refine h.of_created? hcreated hclasses fun key hcontains => ?_
    obtain ⟨grants, hgrants⟩ := Option.isSome_iff_exists.1 hcontains
    rw [hobjects] at hgrants
    exact SortedMap.contains_of_get? (SortedMap.get?_of_get?_erase hgrants)
  | keeps hcreated _ hobjects =>
    exact h.of_created? hcreated hclasses fun key hcontains => hobjects key ▸ hcontains

end Steps

/-! ## Objects are there until they are deleted -/

/-- The objects created have the numbers from one on, and the next one gets the number after those.
What was created is there unless it was deleted. -/
structure Numbered (id : StoreId) (writes : Transaction) (contents : Contents) : Prop
    extends Traced id writes contents where
  nextKey : contents.nextKey.toNat = writes.created.length + 1
  numbers : writes.created.map (·.key.number.toNat) = List.range' 1 writes.created.length
  deleted : ∀ {object}, object ∈ writes.deleted → object ∈ writes.created
  contains : ∀ {object}, object ∈ writes.created →
    contents.objects.contains object.id = decide (object ∉ writes.deleted)

namespace Numbered

variable {id : StoreId} {writes : Transaction} {contents contents' : Contents} {w : Write}
  {object : ObjectRef}

theorem number_le (h : Numbered id writes contents) (hobject : object ∈ writes.created) :
    object.key.number.toNat ≤ writes.created.length := by
  have hmem : object.key.number.toNat ∈ writes.created.map (·.key.number.toNat) :=
    List.mem_map_of_mem hobject
  rw [h.numbers, List.mem_range'_1] at hmem
  omega

/-- The next object is none of those created. -/
theorem ne_next (h : Numbered id writes contents) (hobject : object ∈ writes.created) :
    object.key.number ≠ contents.nextKey := by
  intro hkey
  have hle := h.number_le hobject
  have hnext := h.nextKey
  rw [hkey] at hle
  omega

theorem nodup (h : Numbered id writes contents) : (writes.created.map (·.key)).Nodup := by
  have hnumbers : (writes.created.map (·.key.number.toNat)).Nodup := by
    rw [h.numbers]
    exact List.nodup_range'
  have hmap : writes.created.map (·.key.number.toNat) =
      (writes.created.map (·.key)).map (·.number.toNat) := by
    rw [List.map_map]
    rfl
  rw [hmap] at hnumbers
  exact hnumbers.of_map _

theorem creates (h : Numbered id writes contents) {new : ObjectRef}
    (htraced : Traced id (writes ++ [w]) contents') (hcreated : w.created? = some new)
    (hdeleted : w.deleted? = none) (hkey : new.key.number = contents.nextKey)
    (hobjects : contents'.objects = contents.objects.insert new.id .empty)
    (hnext : contents'.nextKey = contents.nextKey + 1)
    (hfew : writes.created.length + 1 < UInt64.size - 1) :
    Numbered id (writes ++ [w]) contents' := by
  have hcreated' : Transaction.created (writes ++ [w]) = writes.created ++ [new] := by
    rw [Transaction.created_snoc, hcreated, Option.toList_some]
  have hdeleted' := Transaction.deleted_snoc_of_none writes hdeleted
  have hlength : (Transaction.created (writes ++ [w])).length = writes.created.length + 1 := by
    rw [hcreated', List.length_append, List.length_singleton]
  have hnumber : new.key.number.toNat = writes.created.length + 1 := by rw [hkey, h.nextKey]
  refine ⟨htraced, ?_, ?_, fun hobject => ?_, fun {object} hobject => ?_⟩
  · have hone : (1 : UInt64).toNat = 1 := rfl
    have hsize : UInt64.size = 18446744073709551616 := rfl
    have hbefore := h.nextKey
    rw [hnext, hlength, UInt64.toNat_add, hone]
    omega
  · rw [hlength, hcreated', List.map_append, h.numbers, List.range'_concat]
    simp only [List.map_cons, List.map_nil, hnumber]
    congr 2
    omega
  · rw [hdeleted'] at hobject
    rw [hcreated']
    exact List.mem_append_left _ (h.deleted hobject)
  · rw [hdeleted', hobjects, SortedMap.contains_insert]
    rw [hcreated', List.mem_append, List.mem_singleton] at hobject
    rcases hobject with hobject | rfl
    · -- An earlier object keeps its place.
      have hne : object.id ≠ new.id := by
        intro hid
        exact h.ne_next hobject (by rw [← hkey, (ObjectId.mk.inj hid).2])
      rw [decide_eq_false hne, Bool.false_or, h.contains hobject]
    · have hfresh : object ∉ writes.deleted := fun hmem => h.ne_next (h.deleted hmem) hkey
      rw [decide_eq_true rfl, Bool.true_or, decide_eq_true hfresh]

theorem deletes (h : Numbered id writes contents) {old : ObjectRef}
    (htraced : Traced id (writes ++ [w]) contents') (hcreated : w.created? = none)
    (hdeleted : w.deleted? = some old) (howned : old.storeId = some id)
    (hold : contents.objects.contains old.id = true)
    (hobjects : contents'.objects = contents.objects.erase old.id)
    (hnext : contents'.nextKey = contents.nextKey) : Numbered id (writes ++ [w]) contents' := by
  have hcreated' := Transaction.created_snoc_of_none writes hcreated
  have hmem : ∀ {object}, object ∈ Transaction.deleted (writes ++ [w]) ↔
      object ∈ writes.deleted ∨ object = old := by
    intro object
    rw [Transaction.deleted_snoc, hdeleted, Option.toList_some, List.mem_append,
      List.mem_singleton]
  refine ⟨htraced, by rw [hnext, hcreated', h.nextKey], by rw [hcreated', h.numbers],
    fun hobject => ?_, fun {object} hobject => ?_⟩
  · rw [hcreated']
    rcases hmem.1 hobject with hobject | rfl
    · exact h.deleted hobject
    · exact h.of_contains howned hold
  · rw [hcreated'] at hobject
    rw [hobjects, SortedMap.contains, SortedMap.get?_erase]
    by_cases heq : object = old
    · have hmem := hmem.2 (.inr heq)
      rw [if_pos (congrArg ObjectRef.id heq), Option.isSome_none, eq_comm, decide_eq_false_iff_not]
      exact fun hout => hout hmem
    · have hne : object.id ≠ old.id := fun hid =>
        heq (ObjectRef.eq_of_id_eq (h.storeId hobject) howned hid)
      have hsame : (object ∉ Transaction.deleted (writes ++ [w])) ↔ object ∉ writes.deleted := by
        rw [hmem, or_iff_left heq]
      rw [if_neg hne, ← SortedMap.contains, h.contains hobject, decide_eq_decide, hsame]

theorem keeps (h : Numbered id writes contents)
    (htraced : Traced id (writes ++ [w]) contents') (hcreated : w.created? = none)
    (hdeleted : w.deleted? = none)
    (hobjects : ∀ key, contents'.objects.contains key = contents.objects.contains key)
    (hnext : contents'.nextKey = contents.nextKey) : Numbered id (writes ++ [w]) contents' := by
  have hcreated' := Transaction.created_snoc_of_none writes hcreated
  have hdeleted' := Transaction.deleted_snoc_of_none writes hdeleted
  refine ⟨htraced, by rw [hnext, hcreated', h.nextKey], by rw [hcreated', h.numbers],
    fun hobject => ?_, fun hobject => ?_⟩
  · rw [hcreated']
    exact h.deleted (hdeleted' ▸ hobject)
  · rw [hobjects, hdeleted']
    exact h.contains (hcreated' ▸ hobject)

theorem write (h : Numbered id writes contents)
    (heffect : contents.Effect id w.call w.reply contents')
    (hfew : (Transaction.created (writes ++ [w])).length < UInt64.size - 1) :
    Numbered id (writes ++ [w]) contents' := by
  have htraced := h.toTraced.write heffect
  cases heffect.objectsAfter with
  | creates hcreated hdeleted _ _ hkey hobjects hnext =>
    rw [Transaction.created_snoc, hcreated, List.length_append] at hfew
    exact h.creates htraced hcreated hdeleted hkey hobjects hnext hfew
  | deletes hcreated hdeleted howned hold hobjects hnext =>
    exact h.deletes htraced hcreated hdeleted howned hold hobjects hnext
  | keeps hcreated hdeleted hobjects hnext =>
    exact h.keeps htraced hcreated hdeleted hobjects hnext

end Numbered

/-! ## Replays -/

namespace Replays

variable {id : StoreId} {writes : Transaction} {first last : Contents}

theorem numbered (h : Replays id writes first last) (hfirst : first.objects = .empty)
    (hone : first.nextKey = 1) (hfew : writes.created.length < UInt64.size - 1) :
    Numbered id writes last := by
  revert hfew
  refine h.along (P := fun writes contents =>
    writes.created.length < UInt64.size - 1 → Numbered id writes contents) (fun _ => ?_)
    fun hbefore heffect hfew => ?_
  · exact ⟨traced_nil hfirst, by rw [hone]; rfl, rfl, fun hobject => (by cases hobject),
      fun hobject => (by cases hobject)⟩
  · refine (hbefore ?_).write heffect hfew
    rw [Transaction.created_snoc, List.length_append] at hfew
    omega

end Replays

/-! ## Runs -/

namespace Store

variable {start : Store} {id : StoreId} {classNames : List String}

theorem objects_ofClasses (hnew : Store.ofClasses id classNames = .ok start) :
    start.shared.committed.objects = .empty ∧ start.shared.committed.nextKey = 1 := by
  obtain ⟨contents, hcontents, rfl⟩ := ofClasses_eq_ok hnew
  obtain ⟨classes, -, hcontents⟩ := bind_eq_ok_iff.1 hcontents
  rw [← Except.ok.inj hcontents]
  exact ⟨rfl, rfl⟩

/-- After a run with few enough creations, the objects that a handle sees are numbered along the
writes that it sees. -/
theorem numbered_seenBy (hnew : Store.ofClasses id classNames = .ok start) (events : List Event)
    (hfew : (start.writes events).created.length < UInt64.size - 1) (handle : HandleId) :
    Numbered id ((start.journal events).seenBy handle)
      (((start.run events).2.pending? handle).getD (start.run events).2.shared.committed) := by
  obtain ⟨hobjects, hkey⟩ := objects_ofClasses hnew
  have hreplays := (accounts_journal hnew events).replays_seenBy handle
  rw [id_run_ofClasses hnew] at hreplays
  have hsome := ((start.journal events).seenBy_subperm handle).trans
    (start.survivors_subperm_writes events)
  have hle := (Transaction.created_subperm hsome).length_le
  exact hreplays.numbered hobjects hkey (by omega)

/-- No two objects that survive have the same key. -/
theorem nodup_survivors (hnew : Store.ofClasses id classNames = .ok start) (events : List Event)
    (hfew : (start.writes events).created.length < UInt64.size - 1) :
    ((start.journal events).survivors.created.map (·.key)).Nodup := by
  obtain ⟨holder?, hslot⟩ := ((Reachable.ofClasses hnew).run events).slot
  obtain ⟨writer, hperm⟩ := (accounts_journal hnew events).survivors_perm_seenBy hslot
  have hkeys := (numbered_seenBy hnew events hfew writer).nodup
  exact ((hperm.filterMap _).map _).nodup_iff.2 hkeys

theorem read_containsObject {store : Store} {handle : HandleId} {connection : Connection}
    (h : store.connection? handle = some connection) (caller : Thread) (object : ObjectRef) :
    store.read handle caller (.containsObject object) =
      .called (.ok (.flag (connection.containsObject object))) :=
  read_eq h caller (.containsObject object)

/-- A call that creates an object puts it where there was none. -/
theorem fresh_of_creates (hnew : Store.ofClasses id classNames = .ok start) (events : List Event)
    (hfew : (start.writes events).created.length < UInt64.size - 1) {handle : HandleId}
    {caller : Thread} {call : Call} {className : String} {object : ObjectRef} {store' : Store}
    (hcreates : call.creates? = some className)
    (hstep : (start.run events).2.step (.call handle caller call) =
      (.called (.ok (.object object)), store')) :
    ∃ contents contents', (start.run events).2.pending? handle = some contents ∧
      store'.pending? handle = some contents' ∧ contents.objects.contains object.id = false ∧
        contents'.objects = contents.objects.insert object.id .empty := by
  cases hconnection : (start.run events).2.connection? handle with
  | none =>
    rw [step_call_of_none hconnection] at hstep
    cases hstep
  | some connection =>
    obtain ⟨change, hcall⟩ := Call.change?_of_creates? hcreates connection.storeId
    obtain ⟨contents, contents', hwrites, heffect, rfl⟩ := effect_of_step hconnection hcall hstep
    have hpending : (start.run events).2.pending? handle = some contents :=
      (pending?_of_connection? hconnection).trans hwrites.pending
    refine ⟨contents, contents', hpending, by rw [pending?_update, if_pos rfl]; rfl, ?_⟩
    have hnumbered := numbered_seenBy hnew events hfew handle
    rw [hpending, Option.getD_some] at hnumbered
    cases heffect with
    | createObject =>
      have hid := id_run_ofClasses hnew events
      refine ⟨?_, rfl⟩
      -- An object that is there was created, and so it does not have the next key.
      rw [← Bool.not_eq_true]
      exact fun hcontains =>
        hnumbered.ne_next (hnumbered.of_contains (congrArg some hid) hcontains) rfl

/-- A call that deletes an object of the store answers whether it was there, and takes away no
other. -/
theorem step_deleteObject {store : Store} {handle : HandleId} {connection : Connection}
    {caller : Thread} {contents : Contents} {object : ObjectRef}
    (hconnection : store.connection? handle = some connection)
    (hwrites : connection.Writes caller contents) (howned : object.storeId = some store.id) :
    let after := store.step (.call handle caller (.deleteObject object))
    after.1 = .called (.ok (.flag (contents.objects.contains object.id))) ∧
      after.2.pending? handle =
        some { contents with objects := contents.objects.erase object.id } := by
  intro after
  have howned : object.requireStore connection.storeId = .ok () := by
    rw [storeId_of_connection? hconnection]
    exact Contents.requireStore_eq_ok_iff.2 howned
  obtain ⟨change, hcall⟩ : ∃ change, (Call.deleteObject object).change? connection.storeId =
      some change := ⟨_, rfl⟩
  have hrun : change.apply contents = (.ok (.flag (contents.objects.contains object.id)),
      { contents with objects := contents.objects.erase object.id }) := by
    rw [← Option.some.inj hcall]
    exact Action.apply_lift_bind_eq_ok_iff.2 ⟨(), howned, rfl⟩
  have hafter : after = (_, store.update handle _) :=
    step_call hconnection (Connection.apply_write hwrites hcall hrun)
  rw [hafter]
  refine ⟨rfl, ?_⟩
  rw [pending?_update, if_pos rfl]
  rfl

/-- What was created in a committed transaction is there unless it was deleted in one. -/
theorem containsObject_of_created (hnew : Store.ofClasses id classNames = .ok start)
    {events : List Event} (hfew : (start.writes events).created.length < UInt64.size - 1)
    {object : ObjectRef} (hcreated : object ∈ (start.journal events).kept.created)
    {handle : HandleId} {connection : Connection}
    (hconnection : (start.run events).2.connection? handle = some connection)
    (hpending : connection.handle.pending = none) :
    connection.containsObject object = decide (object ∉ (start.journal events).kept.deleted) := by
  have hnone := (pending?_of_connection? hconnection).trans hpending
  have hnumbered := numbered_seenBy hnew events hfew handle
  rw [(accounts_journal hnew events).seenBy_eq_kept hnone, hnone, Option.getD_none] at hnumbered
  have hstore : connection.storeId = id :=
    (storeId_of_connection? hconnection).trans (id_run_ofClasses hnew events)
  have hvisible : connection.visible = (start.run events).2.shared.committed := by
    rw [Connection.visible, hpending, Option.getD_none, shared_of_connection? hconnection]
  rw [Connection.containsObject, hstore, hvisible, decide_eq_true (hnumbered.storeId hcreated),
    Bool.true_and, hnumbered.contains hcreated]

/-- **Objects keep their identity.** In a run of a new store with fewer creations than there are
keys to give, discarded ones included: all objects created in transactions that were committed or
are open have different keys. A creation that succeeds next puts an object without grants where
there was none, and leaves the other objects as they are. Whoever has a transaction can delete an
object of the store next, is answered whether it was there, and takes away no other. Once an object
was created in a committed transaction, every handle without a transaction finds it there, until a
transaction that deleted it is committed, and never again after that. -/
theorem objects_keep_identity (hnew : Store.ofClasses id classNames = .ok start)
    (events : List Event) (hfew : (start.writes events).created.length < UInt64.size - 1) :
    ((start.journal events).survivors.created.map (·.key)).Nodup ∧
    (∀ handle caller call className object store', call.creates? = some className →
      (start.run events).2.step (.call handle caller call) =
        (.called (.ok (.object object)), store') →
          ∃ contents contents', (start.run events).2.pending? handle = some contents ∧
            store'.pending? handle = some contents' ∧
            contents.objects.contains object.id = false ∧
            contents'.objects = contents.objects.insert object.id .empty) ∧
    (∀ handle connection caller contents object,
      (start.run events).2.connection? handle = some connection →
        connection.Writes caller contents → object.storeId = some id →
          let after := (start.run events).2.step (.call handle caller (.deleteObject object))
          after.1 = .called (.ok (.flag (contents.objects.contains object.id))) ∧
            after.2.pending? handle =
              some { contents with objects := contents.objects.erase object.id }) ∧
    ∀ before object, before <+: events → object ∈ (start.journal before).kept.created →
      ∀ handle found, (start.run events).2.handles.get? handle = some found →
        found.pending = none → ∀ caller,
          (start.run events).2.read handle caller (.containsObject object) =
            .called (.ok (.flag (object ∉ (start.journal events).kept.deleted))) ∧
          (object ∈ (start.journal before).kept.deleted →
            (start.run events).2.read handle caller (.containsObject object) =
              .called (.ok (.flag false))) := by
  refine ⟨nodup_survivors hnew events hfew,
    fun handle caller call className object store' hcreates hstep =>
      fresh_of_creates hnew events hfew hcreates hstep,
    fun handle connection caller contents object hconnection hwrites howned => ?_,
    fun before object hbefore hcreated handle found hfound hpending caller => ?_⟩
  · exact step_deleteObject hconnection hwrites (by rw [howned, id_run_ofClasses hnew])
  · obtain ⟨after, hevents⟩ := hbefore
    have hkept := start.kept_run before after
    rw [hevents] at hkept
    have hcreated := Transaction.created_subset hkept hcreated
    have hconnection : (start.run events).2.connection? handle = some ⟨_, _, found⟩ :=
      connection?_eq_some_iff.2 ⟨hfound, rfl, rfl⟩
    have hcontains := containsObject_of_created hnew hfew hcreated hconnection hpending
    rw [read_containsObject hconnection, hcontains]
    refine ⟨rfl, fun hdeleted => ?_⟩
    have hdeleted := Transaction.deleted_subset hkept hdeleted
    rw [decide_eq_false (not_not_intro hdeleted)]

/-- A document of alice, which she could delete herself before she commits it. Bob deletes it when
he has created another, and there is a third one to come. -/
theorem objects_keep_identity_two_handles :
    let alice : Principal := ⟨"alice", by decide⟩
    let bob : Principal := ⟨"bob", by decide⟩
    let first : ObjectRef := .managed ⟨0⟩ "Document" ⟨1⟩
    let second : ObjectRef := .managed ⟨0⟩ "Document" ⟨2⟩
    let third : ObjectRef := .managed ⟨0⟩ "Document" ⟨3⟩
    let writing : List Event :=
      [.openHandle ⟨0⟩ alice.text, .openHandle ⟨1⟩ bob.text, .call ⟨0⟩ ⟨0⟩ .begin,
        .call ⟨0⟩ ⟨0⟩ (.createObject "Document")]
    let before : List Event := writing ++ [.call ⟨0⟩ ⟨0⟩ .commit]
    let events : List Event := before ++
      [.call ⟨1⟩ ⟨1⟩ .begin, .call ⟨1⟩ ⟨1⟩ (.createObject "Document"),
        .call ⟨1⟩ ⟨1⟩ (.deleteObject first), .call ⟨1⟩ ⟨1⟩ .commit, .call ⟨0⟩ ⟨0⟩ .begin]
    ∃ start : Store, Store.ofClasses ⟨0⟩ ["Document"] = .ok start ∧
      (start.journal events).survivors.created = [first, second] ∧
      ((start.journal events).survivors.created.map (·.key)).Nodup ∧
      (∃ contents contents', (start.run events).2.pending? ⟨0⟩ = some contents ∧
        ((start.run events).2.step (.call ⟨0⟩ ⟨0⟩ (.createObject "Document"))).2.pending? ⟨0⟩ =
          some contents' ∧
        contents.objects.contains third.id = false ∧
        contents'.objects = contents.objects.insert third.id .empty) ∧
      ((start.run writing).2.step (.call ⟨0⟩ ⟨0⟩ (.deleteObject first))).1 =
        .called (.ok (.flag true)) ∧
      first ∈ (start.journal before).kept.created ∧
      first ∈ (start.journal events).kept.deleted ∧
      ∀ caller,
        (start.run before).2.read ⟨1⟩ caller (.containsObject first) =
          .called (.ok (.flag true)) ∧
        (start.run events).2.read ⟨1⟩ caller (.containsObject first) =
          .called (.ok (.flag false)) := by
  intro alice bob first second third writing before events
  have hnew : Store.ofClasses ⟨0⟩ ["Document"] = .ok _ := rfl
  obtain ⟨-, -, hdeletes, -⟩ := objects_keep_identity hnew writing (by
    simp only [writes, history, writing, run_cons, step_openHandle, Principal.parse_text]
    decide +kernel)
  obtain ⟨-, -, -, hthere⟩ := objects_keep_identity hnew before (by
    simp only [writes, history, before, writing, List.cons_append, List.nil_append, run_cons,
      step_openHandle, Principal.parse_text]
    decide +kernel)
  obtain ⟨hnodup, hfresh, -, hgone⟩ := objects_keep_identity hnew events (by
    simp only [writes, history, events, before, writing, List.cons_append, List.nil_append,
      run_cons, step_openHandle, Principal.parse_text]
    decide +kernel)
  have hthere := hthere before first List.prefix_rfl
  have hgone := hgone events first List.prefix_rfl
  refine ⟨_, hnew, ?_⟩
  simp only [journal, history, events, before, writing, List.cons_append, List.nil_append,
    run_cons, step_openHandle, Principal.parse_text] at hnodup hfresh hdeletes hthere hgone ⊢
  refine ⟨by decide +kernel, hnodup, ?_, ?_, by decide +kernel, by decide +kernel,
    fun caller => ⟨?_, ?_⟩⟩
  · exact hfresh ⟨0⟩ ⟨0⟩ (.createObject "Document") "Document" third _ rfl
      (step_eq_of_reply? (by decide +kernel))
  · exact (hdeletes ⟨0⟩ _ ⟨0⟩ _ first rfl ⟨rfl, rfl⟩ rfl).1.trans
      (Outcome.reply?_eq_some_iff.1 (by decide +kernel))
  · have hfound := hthere (by decide +kernel) ⟨1⟩ (.ofPrincipal bob ⟨1⟩) (by decide +kernel) rfl
    rw [(hfound caller).1]
    exact Outcome.reply?_eq_some_iff.1 (by decide +kernel)
  · have hfound := hgone (by decide +kernel) ⟨1⟩ (.ofPrincipal bob ⟨1⟩) (by decide +kernel) rfl
    exact (hfound caller).2 (by decide +kernel)

end Store

end StoreAccess
