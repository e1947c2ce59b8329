import StoreAccess.Proofs.Store.Events

/-!
# What a store holds is sound

The contents of a store refer to each other by name: lists of grants name roles, objects name
classes. `Contents.Sound` says that everything is filed under its own name, that no list has a
second entry for a role, and that what is named is there. Each edit keeps that, and so do the
copies, publications and losses of whole contents that the calls of handles amount to.

Main statement: `integrity_kept`.
-/

namespace StoreAccess

namespace Contents

/-! ## Sound contents -/

/-- The list has one entry for a role at most, and the roles in it are there. -/
structure Backed (roles : SortedMap String Role) (l : GrantList) : Prop where
  distinct : l.Distinct
  contains : ∀ {role : String}, role ∈ l.roles → roles.contains role = true

structure Sound (contents : Contents) : Prop where
  everyone : contents.roles.contains everyoneName = true
  /-- Roles are filed under their names, which are not blank. -/
  role_filed : ∀ {name : String} {role : Role}, contents.roles.get? name = some role →
    role.name = name ∧ Text.isBlank name = false
  /-- The grants on classes are filed under the names of the classes, which are not blank. -/
  class_filed : ∀ {className : String} {kept : ClassGrants},
    contents.classes.get? className = some kept →
      kept.className = className ∧ Text.isBlank className = false
  realm_backed : Backed contents.roles contents.realm.grants
  class_backed : ∀ {className : String} {kept : ClassGrants},
    contents.classes.get? className = some kept → Backed contents.roles kept.grants
  object_backed : ∀ {id : ObjectId} {grants : GrantList},
    contents.objects.get? id = some grants → Backed contents.roles grants
  /-- Objects are of classes of the schema. -/
  object_class : ∀ {id : ObjectId}, contents.objects.contains id = true →
    contents.hasClass id.className = true
  /-- Members of roles are known by identifiers that are accepted. -/
  member_parses : ∀ {name : String} {role : Role} {p : Principal},
    contents.roles.get? name = some role → role.isRecorded p = true →
      Principal.parse p.text = .ok p
  /-- Principals on record are known by identifiers that are accepted. -/
  principal_parses : ∀ {p : Principal}, contents.principals.contains p = true →
    Principal.parse p.text = .ok p

/-- The roles of sound contents are listed under their names. -/
theorem Sound.mem_values_roles_iff {contents : Contents} (h : contents.Sound) {role : Role} :
    role ∈ contents.roles.values ↔ contents.roles.get? role.name = some role := by
  rw [SortedMap.values, List.mem_map, SortedMap.get?_eq_some_iff]
  constructor
  · rintro ⟨⟨name, role⟩, hentry, rfl⟩
    rwa [(h.role_filed (SortedMap.get?_eq_some_iff.2 hentry)).1]
  · exact fun hentry => ⟨_, hentry, rfl⟩

section Edits

variable {contents contents' : Contents} {roles : SortedMap String Role} {l : GrantList}

theorem backed_empty (roles : SortedMap String Role) : Backed roles .empty :=
  ⟨GrantList.nodup_empty, fun hrole => by cases hrole⟩

theorem Backed.insert (h : Backed roles l) (name : String) (role : Role) :
    Backed (roles.insert name role) l :=
  ⟨h.distinct, fun hrole => by rw [SortedMap.contains_insert, h.contains hrole, Bool.or_true]⟩

/-- A list stays backed by a grant to a role that is there. -/
theorem Backed.grant (h : Backed roles l) {g : Grant} (hg : roles.contains g.role = true) :
    Backed roles (l.grant g) := by
  refine ⟨GrantList.nodup_grant h.distinct g, fun hrole => ?_⟩
  rw [GrantList.roles_grant] at hrole
  split at hrole
  · exact h.contains hrole
  · rcases List.mem_append.1 hrole with hrole | hrole
    · exact h.contains hrole
    · rwa [List.mem_singleton.1 hrole]

/-! ## Each edit keeps contents sound -/

/-- An object is put under an identifier of a class of the schema, new or in place of one that was
there. -/
theorem Sound.insertObject (h : contents.Sound) {id : ObjectId} {grants : GrantList}
    (nextKey : UInt64) (hclass : contents.hasClass id.className = true)
    (hgrants : Backed contents.roles grants) :
    Sound { contents with objects := contents.objects.insert id grants, nextKey } :=
  { h with
    object_backed := SortedMap.of_get?_insert (P := fun _ => Backed _) hgrants h.object_backed
    object_class := fun hobject => by
      rw [SortedMap.contains_insert, Bool.or_eq_true, decide_eq_true_iff] at hobject
      rcases hobject with rfl | hobject
      · exact hclass
      · exact h.object_class hobject }

theorem Sound.deleteObject (h : contents.Sound) (id : ObjectId) :
    Sound { contents with objects := contents.objects.erase id } :=
  { h with
    object_backed := fun hgrants => h.object_backed (SortedMap.get?_of_get?_erase hgrants)
    object_class := fun hobject => by
      obtain ⟨grants, hgrants⟩ := Option.isSome_iff_exists.1 hobject
      exact h.object_class (SortedMap.contains_of_get? (SortedMap.get?_of_get?_erase hgrants)) }

/-- Filing a role anew, or for the first time, under its name. -/
theorem Sound.insertRole (h : contents.Sound) (role : Role)
    (hblank : Text.isBlank role.name = false) :
    Sound { contents with roles := contents.roles.insert role.name role } :=
  { h with
    everyone := by rw [SortedMap.contains_insert, h.everyone, Bool.or_true]
    role_filed := SortedMap.of_get?_insert
      (P := fun name (role : Role) => role.name = name ∧ Text.isBlank name = false)
      ⟨rfl, hblank⟩ h.role_filed
    realm_backed := h.realm_backed.insert _ _
    class_backed := fun hkept => (h.class_backed hkept).insert _ _
    object_backed := fun hgrants => (h.object_backed hgrants).insert _ _
    member_parses := fun _ _ => Principal.parse_text _ }

theorem Sound.grantOnStore (h : contents.Sound) {g : Grant}
    (hrole : contents.roles.contains g.role = true) :
    Sound { contents with realm := ⟨contents.realm.grants.grant g⟩ } :=
  { h with realm_backed := h.realm_backed.grant hrole }

theorem Sound.grantOnClass (h : contents.Sound) {g : Grant} {className : String}
    {kept : ClassGrants} (hrole : contents.roles.contains g.role = true)
    (hkept : contents.classes.get? className = some kept) :
    Sound { contents with
      classes := contents.classes.insert className
        { kept with grants := kept.grants.grant g } } := by
  have hfiled := h.class_filed hkept
  have hbacked := (h.class_backed hkept).grant hrole
  exact { h with
    class_filed := SortedMap.of_get?_insert
      (P := fun className (kept : ClassGrants) =>
        kept.className = className ∧ Text.isBlank className = false)
      hfiled h.class_filed
    class_backed := SortedMap.of_get?_insert
      (P := fun _ (kept : ClassGrants) => Backed _ kept.grants) hbacked h.class_backed
    object_class := fun hobject => by
      rw [hasClass, SortedMap.contains_insert, ← hasClass, h.object_class hobject, Bool.or_true] }

theorem Sound.recordPrincipal (h : contents.Sound) (p : Principal) :
    Sound { contents with principals := contents.principals.insert p } :=
  { h with principal_parses := fun _ => Principal.parse_text _ }

theorem Edit.sound (hedit : contents.Edit contents') (h : contents.Sound) : contents'.Sound := by
  cases hedit with
  | createObject hclass => exact h.insertObject _ hclass (backed_empty _)
  | deleteObject id => exact h.deleteObject id
  | @fileRole role hblank hnew => exact h.insertRole ⟨role, .empty⟩ hblank
  | grantOnStore hrole => exact h.grantOnStore hrole
  | grantOnClass hrole hkept => exact h.grantOnClass hrole hkept
  | grantOnObject hrole hgrants =>
    have hclass := h.object_class (SortedMap.contains_of_get? hgrants)
    exact h.insertObject _ hclass ((h.object_backed hgrants).grant hrole)
  | recordPrincipal p => exact h.recordPrincipal p
  | @changeMembers role found changed hfound hname =>
    -- The role keeps the name it is filed under.
    obtain ⟨hrole, hblank⟩ := h.role_filed hfound
    have hrole : changed.name = role := hname.trans hrole
    rw [← hrole]
    exact h.insertRole changed (hrole ▸ hblank)

theorem Edits.sound (hedits : Edits contents contents') (h : contents.Sound) :
    contents'.Sound := by
  induction hedits with
  | refl => exact h
  | tail _ hedit ih => exact hedit.sound ih

end Edits

/-! ## New contents -/

/-- The classes are filed under their names, which are not blank, and have no grants. -/
def Declared (classes : SortedMap String ClassGrants) : Prop :=
  ∀ {className : String} {kept : ClassGrants}, classes.get? className = some kept →
    kept = ⟨className, .empty⟩ ∧ Text.isBlank className = false

theorem declared_declareClass {classes classes' : SortedMap String ClassGrants}
    {className : String} (hdeclared : Declared classes)
    (h : declareClass classes className = .ok classes') : Declared classes' := by
  obtain ⟨kept, hkept, h⟩ := bind_eq_ok_iff.1 h
  obtain ⟨rfl, hblank⟩ := ClassGrants.ofName_eq_ok_iff.1 hkept
  split at h
  · cases h
  · rw [← Except.ok.inj h]
    exact SortedMap.of_get?_insert ⟨rfl, hblank⟩ hdeclared

theorem declared_foldlM {classes classes' : SortedMap String ClassGrants}
    {classNames : List String} (hdeclared : Declared classes)
    (h : classNames.foldlM declareClass classes = .ok classes') : Declared classes' := by
  induction classNames generalizing classes with
  | nil => exact Except.ok.inj h ▸ hdeclared
  | cons className classNames ih =>
    rw [List.foldlM_cons] at h
    obtain ⟨next, hnext, h⟩ := bind_eq_ok_iff.1 h
    exact ih (declared_declareClass hdeclared hnext) h

theorem sound_ofClasses {contents : Contents} {classNames : List String}
    (h : Contents.ofClasses classNames = .ok contents) : contents.Sound := by
  obtain ⟨classes, hclasses, h⟩ := bind_eq_ok_iff.1 h
  have hdeclared : Declared classes :=
    declared_foldlM (fun hkept => by cases hkept) hclasses
  rw [← Except.ok.inj h]
  exact {
    everyone := by simp [SortedMap.contains_insert, Role.everyone]
    role_filed := SortedMap.of_get?_insert
      (P := fun name (role : Role) => role.name = name ∧ Text.isBlank name = false)
      (m := .empty) ⟨rfl, by decide⟩ fun hnone => by cases hnone
    class_filed := fun hfound => by
      obtain ⟨rfl, hblank⟩ := hdeclared hfound
      exact ⟨rfl, hblank⟩
    realm_backed := backed_empty _
    class_backed := fun hkept => by
      obtain ⟨rfl, -⟩ := hdeclared hkept
      exact backed_empty _
    object_backed := fun hgrants => by cases hgrants
    object_class := fun hobject => by cases hobject
    member_parses := fun _ _ => Principal.parse_text _
    principal_parses := fun _ => Principal.parse_text _ }

end Contents

/-! ## Calls -/

/-- What is committed is sound, and what a transaction of the handle works on. -/
structure Connection.Sound (connection : Connection) : Prop where
  committed : connection.shared.committed.Sound
  pending : ∀ {contents : Contents}, connection.handle.pending = some contents → contents.Sound

theorem Connection.Sound.visible {connection : Connection} (h : connection.Sound) :
    connection.visible.Sound := by
  unfold Connection.visible
  cases hpending : connection.handle.pending with
  | none => exact h.committed
  | some contents => exact h.pending hpending

theorem Connection.Move.sound {connection connection' : Connection} {caller : Thread} {call : Call}
    {result : Except AccessError Reply} (h : connection.Move caller call result connection')
    (hsound : connection.Sound) : connection'.Sound := by
  cases h with
  | refuse | answer | closeAgain => exact hsound
  | begin => exact ⟨hsound.committed, fun hcopy => Option.some.inj hcopy ▸ hsound.committed⟩
  | commit hwrites => exact ⟨hsound.pending hwrites.pending, fun hnone => by cases hnone⟩
  | cancel => exact ⟨hsound.committed, fun hnone => by cases hnone⟩
  | close =>
    refine ⟨?_, fun hpending => ?_⟩
    · rw [shut, connection.discard_committed]
      exact hsound.committed
    · rw [shut, connection.discard_pending] at hpending
      cases hpending
  | write hwrites hcall hrun =>
    have hedits := Contents.edits_of_call hcall hrun
    exact ⟨hsound.committed, fun hpending =>
      Option.some.inj hpending ▸ hedits.sound (hsound.pending hwrites.pending)⟩

namespace Store

/-! ## Stores -/

/-- The committed contents are sound, and those that transactions work on. -/
structure Sound (store : Store) : Prop where
  committed : store.shared.committed.Sound
  pending : ∀ {handle : HandleId} {contents : Contents},
    store.pending? handle = some contents → contents.Sound

variable {store : Store}

theorem Sound.of_connection? {handle : HandleId} {connection : Connection} (h : store.Sound)
    (hconnection : store.connection? handle = some connection) : connection.Sound where
  committed := by
    rw [shared_of_connection? hconnection]
    exact h.committed
  pending hpending := h.pending ((pending?_of_connection? hconnection).trans hpending)

theorem Move.sound {store' : Store} {event : Event} {outcome : Outcome}
    (h : store.Move event outcome store') (hsound : store.Sound) : store'.Sound := by
  cases h with
  | refuse | absent => exact hsound
  | opened p =>
    refine ⟨hsound.committed, fun {other contents} hpending => ?_⟩
    rw [pending?, get?_opened] at hpending
    split at hpending
    · cases hpending
    · exact hsound.pending hpending
  | called hconnection hmove =>
    have hafter := hmove.sound (hsound.of_connection? hconnection)
    refine ⟨hafter.committed, fun {other contents} hpending => ?_⟩
    rw [pending?_update] at hpending
    split at hpending
    · exact hafter.pending hpending
    · exact hsound.pending hpending
  | @dropped handle connection hconnection =>
    refine ⟨?_, fun {other contents} hpending => ?_⟩
    · rw [Store.dropped, connection.discard_committed]
      exact (hsound.of_connection? hconnection).committed
    · rw [pending?_dropped] at hpending
      split at hpending
      · cases hpending
      · exact hsound.pending hpending

theorem Sound.step (h : store.Sound) (event : Event) : (store.step event).2.Sound :=
  (store.step_moves event).sound h

theorem Reachable.sound (h : store.Reachable) : store.Sound := by
  induction h with
  | ofClasses hnew =>
    obtain ⟨contents, hcontents, rfl⟩ := ofClasses_eq_ok hnew
    exact ⟨Contents.sound_ofClasses hcontents, fun hpending => by cases hpending⟩
  | step event _ ih => exact ih.step event

/-- **Stores stay sound.** In every reachable store the committed contents and those of every
transaction are sound, and no event can make a sound store unsound, whether it succeeds or not. -/
theorem integrity_kept (store : Store) :
    (store.Reachable → store.Sound) ∧ (store.Sound → ∀ event, (store.step event).2.Sound) :=
  ⟨Reachable.sound, Sound.step⟩

/-- Granting on a class to a role that there was not, and committing that. -/
theorem integrity_kept_after_grant :
    let alice : Principal := ⟨"alice", by decide⟩
    let events : List Event :=
      [.openHandle ⟨0⟩ alice.text, .call ⟨0⟩ ⟨0⟩ .begin,
        .call ⟨0⟩ ⟨0⟩ (.grantOnClass "Document" "editors" .all)]
    ∃ start : Store, Store.ofClasses ⟨0⟩ ["Document"] = .ok start ∧
      ((start.run events).2.pending? ⟨0⟩).any (·.roles.contains "editors") = true ∧
      (start.run events).2.Sound ∧
      ((start.run events).2.step (.call ⟨0⟩ ⟨0⟩ .commit)).2.Sound := by
  intro alice events
  have hnew : Store.ofClasses ⟨0⟩ ["Document"] = .ok _ := rfl
  have hsound := (integrity_kept _).1 ((Reachable.ofClasses hnew).run events)
  refine ⟨_, hnew, ?_, hsound, (integrity_kept _).2 hsound _⟩
  simp only [events, run_cons, step_openHandle, Principal.parse_text]
  decide +kernel

end Store

end StoreAccess
