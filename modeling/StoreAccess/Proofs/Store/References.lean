import StoreAccess.Proofs.Store.Integrity
import StoreAccess.Proofs.Store.Objects
import StoreAccess.Proofs.Store.Resolving

/-!
# What a reference reads

A reference denotes an object of a store if it names the store, and its class and key are those of
an object there. Grants are looked up by class and key alone. So through a reference of another
store, or of none, a handle reads the grants of the object of its own store that has the same
class and key, although the reference does not denote it (`not_readsOnlyContained`). A reference
of the store itself reads the grants of the object it denotes, or none.

Main statement: `references_read_by_id`.
-/

namespace StoreAccess

/-- The reference of a store to what has the class and the key. -/
def ObjectRef.inStore (object : ObjectRef) (id : StoreId) : ObjectRef :=
  .managed id object.className object.key

@[simp] theorem ObjectRef.storeId_inStore (object : ObjectRef) (id : StoreId) :
    (object.inStore id).storeId = some id := rfl

@[simp] theorem ObjectRef.id_inStore (object : ObjectRef) (id : StoreId) :
    (object.inStore id).id = object.id := rfl

theorem ObjectRef.inStore_eq {object : ObjectRef} {id : StoreId} (h : object.storeId = some id) :
    object.inStore id = object :=
  eq_of_id_eq rfl h rfl

/-- Where there are no grants, everybody has what the template allows. -/
theorem GrantSource.privileges_of_no_grants {source : GrantSource} {scope : Scope}
    (h : source.grantsAt scope = .ok .empty) (p : Principal) :
    source.privileges p scope = .ok ⟨Policy.template scope.kind⟩ := by
  rw [privileges, h]
  rfl

theorem Contents.objectGrants_of_not_contains {contents : Contents} {id : ObjectId}
    (h : contents.objects.contains id = false) : contents.objectGrants id = .empty := by
  have hnone : contents.objects.get? id = none := by simpa [SortedMap.contains] using h
  rw [objectGrants, hnone, Option.getD_none]

namespace Store

/-- Nothing is read of the object through the handle: it has no grants, and if its class is one of
the schema then everybody has just what the template allows on it. -/
structure ReadsNothing (store : Store) (handle : HandleId) (object : ObjectRef) : Prop where
  grants : ∀ caller, store.read handle caller (.objectGrants object) =
    .called (.ok (.grants .empty))
  privileges : ∀ caller, store.read handle caller (.hasClass object.className) =
      .called (.ok (.flag true)) →
    ∀ p : Principal, store.read handle caller (.privilegesOf p.text (.object object)) =
      .called (.ok (.privileges ⟨Policy.template .object⟩))

/-- The handle would read grants of contained objects only. -/
def ReadsOnlyContained (store : Store) (handle : HandleId) : Prop :=
  ∀ object, (∀ caller, store.read handle caller (.containsObject object) =
    .called (.ok (.flag false))) → store.ReadsNothing handle object

/-- It does not: a reference of no store reads the grants of the object here with its key. -/
theorem not_readsOnlyContained :
    let alice : Principal := ⟨"alice", by decide⟩
    let events : List Event :=
      [.openHandle ⟨0⟩ alice.text, .call ⟨0⟩ ⟨0⟩ .begin,
        .call ⟨0⟩ ⟨0⟩ (.createObject "Document"),
        .call ⟨0⟩ ⟨0⟩ (.grantOnObject (.managed ⟨0⟩ "Document" ⟨1⟩) everyoneName .none)]
    ∃ start : Store, Store.ofClasses ⟨0⟩ ["Document"] = .ok start ∧
      ¬ (start.run events).2.ReadsOnlyContained ⟨0⟩ := by
  intro alice events
  have hnew : Store.ofClasses ⟨0⟩ ["Document"] = .ok _ := rfl
  refine ⟨_, hnew, fun honly => ?_⟩
  simp only [events, run_cons, step_openHandle, Principal.parse_text] at honly
  have hempty := (honly (.unmanaged "Document" ⟨1⟩) fun _ => read_containsObject rfl _ _).grants ⟨0⟩
  exact absurd (Outcome.reply?_eq_some_iff.2 hempty) (by decide +kernel)

variable {store : Store} {handle : HandleId} {connection : Connection} {object : ObjectRef}

/-- The store that a reference names makes no difference to what is read of the object. -/
theorem read_inStore (hconnection : store.connection? handle = some connection) (caller : Thread) :
    store.read handle caller (.objectGrants object) =
        store.read handle caller (.objectGrants (object.inStore store.id)) ∧
      ∀ principal, store.read handle caller (.privilegesOf principal (.object object)) =
        store.read handle caller (.privilegesOf principal (.object (object.inStore store.id))) :=
  ⟨by simp only [read_eq hconnection]; rfl, fun _ => by simp only [read_eq hconnection]; rfl⟩

theorem readsNothing_of_not_contains (h : store.Reachable)
    (hconnection : store.connection? handle = some connection)
    (hcontains : connection.visible.objects.contains object.id = false) :
    store.ReadsNothing handle object := by
  have hgrants := Contents.objectGrants_of_not_contains hcontains
  refine ⟨fun caller => ?_, fun caller hclass p => ?_⟩
  · rw [read_eq hconnection]
    exact congrArg (Outcome.called <| .ok <| .grants ·) hgrants
  · have hclass : connection.visible.hasClass object.className = true := by
      simpa [read_eq hconnection, AccessView.reply, Connection.view] using hclass
    obtain ⟨kept, hkept⟩ := Option.isSome_iff_exists.1 hclass
    have hblank := ((h.sound.of_connection? hconnection).visible.class_filed hkept).2
    have hschema : connection.visible.source.InSchema object.className :=
      ⟨hblank, congrArg Except.ok hclass⟩
    have hread : connection.visible.source.grantsAt (.object object) = .ok .empty :=
      GrantSource.grantsAt_eq_ok_iff.2 (.object hschema (congrArg Except.ok hgrants))
    rw [read_privilegesOf hconnection, GrantSource.privileges_of_no_grants hread]
    rfl

/-- **References are read by class and key.** Which store a reference names makes no difference to
the grants that a handle reads through it, nor to a resolution at the object. If the store of the
handle contains no object of the class and the key, nothing is read. So nothing is read through a
reference of the store itself that denotes no object. -/
theorem references_read_by_id (h : store.Reachable)
    (hconnection : store.connection? handle = some connection) (object : ObjectRef) :
    (∀ caller, store.read handle caller (.objectGrants object) =
          store.read handle caller (.objectGrants (object.inStore store.id)) ∧
        ∀ principal, store.read handle caller (.privilegesOf principal (.object object)) =
          store.read handle caller
            (.privilegesOf principal (.object (object.inStore store.id)))) ∧
      ((∀ caller, store.read handle caller (.containsObject (object.inStore store.id)) =
        .called (.ok (.flag false))) → store.ReadsNothing handle object) ∧
      (object.storeId = some store.id → (∀ caller, store.read handle caller
        (.containsObject object) = .called (.ok (.flag false))) →
          store.ReadsNothing handle object) := by
  have hunread : (∀ caller, store.read handle caller (.containsObject (object.inStore store.id)) =
      .called (.ok (.flag false))) → store.ReadsNothing handle object := by
    intro hcontains
    refine readsNothing_of_not_contains h hconnection ?_
    simpa [read_containsObject hconnection, Connection.containsObject,
      storeId_of_connection? hconnection] using hcontains ⟨0⟩
  refine ⟨read_inStore hconnection, hunread, fun howned hcontains => hunread ?_⟩
  rwa [ObjectRef.inStore_eq howned]

/-- A reference of another store to a document, of which this store has only the first. -/
theorem references_read_by_id_foreign :
    let alice : Principal := ⟨"alice", by decide⟩
    let events : List Event :=
      [.openHandle ⟨0⟩ alice.text, .call ⟨0⟩ ⟨0⟩ .begin,
        .call ⟨0⟩ ⟨0⟩ (.createObject "Document")]
    let object : ObjectRef := .managed ⟨1⟩ "Document" ⟨2⟩
    ∃ start connection, Store.ofClasses ⟨0⟩ ["Document"] = .ok start ∧
      (start.run events).2.Reachable ∧
      (start.run events).2.connection? ⟨0⟩ = some connection ∧
      (∀ caller, (start.run events).2.read ⟨0⟩ caller (.containsObject (object.inStore ⟨0⟩)) =
        .called (.ok (.flag false))) ∧
      (start.run events).2.ReadsNothing ⟨0⟩ object := by
  intro alice events object
  have hnew : Store.ofClasses ⟨0⟩ ["Document"] = .ok _ := rfl
  have hreach := (Reachable.ofClasses hnew).run events
  simp only [events, run_cons, step_openHandle, Principal.parse_text] at hreach ⊢
  have hread : ∀ {store : Store} {connection}, store.Reachable → store.id = ⟨0⟩ →
      store.connection? ⟨0⟩ = some connection →
      connection.containsObject (object.inStore ⟨0⟩) = false →
        (∀ caller, store.read ⟨0⟩ caller (.containsObject (object.inStore ⟨0⟩)) =
          .called (.ok (.flag false))) ∧ store.ReadsNothing ⟨0⟩ object := by
    intro store connection h hid hconnection hcontains
    have hunread := fun caller => (read_containsObject hconnection caller _).trans
      (congrArg (Outcome.called <| .ok <| .flag ·) hcontains)
    exact ⟨hunread, (references_read_by_id h hconnection object).2.1 (hid ▸ hunread)⟩
  exact ⟨_, _, hnew, hreach, rfl, hread hreach rfl rfl (by decide +kernel)⟩

end Store

end StoreAccess
