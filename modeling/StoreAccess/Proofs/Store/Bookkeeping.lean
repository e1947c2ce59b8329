import StoreAccess.Proofs.Store.Integrity
import StoreAccess.Proofs.Store.Members

/-!
# Who is a member after changes of members

Through one handle, in its transaction, members are added to roles and taken out of them, one call
after the other, with repeats and with removals of those who are no members. What is recorded in
the end goes by the last change of each role and principal, and everything that can be asked about
a role answers from that.

Main statement: `membership_kept`.
-/

namespace StoreAccess

/-- A change of the members of a role, asked for by the identifier of a principal. -/
inductive MemberChange where
  | add (role principal : String)
  | drop (role principal : String)

namespace MemberChange

def change : MemberChange → RoleChange
  | add role principal => .addMember role principal
  | drop role principal => .dropMember role principal

def role : MemberChange → String
  | add role _ | drop role _ => role

def principal : MemberChange → String
  | add _ principal | drop _ principal => principal

def adds : MemberChange → Bool
  | add .. => true
  | drop .. => false

/-- Whether the last change of a role and a principal was to add it, if there was one. -/
def lastOn? (role : String) (p : Principal) (changes : List MemberChange) : Option Bool :=
  (changes.filter fun c => c.role = role ∧ c.principal = p.text).getLast?.map adds

theorem lastOn?_cons (role : String) (p : Principal) (c : MemberChange)
    (changes : List MemberChange) :
    lastOn? role p (c :: changes) = (lastOn? role p changes).or
      (if c.role = role ∧ c.principal = p.text then some c.adds else none) := by
  unfold lastOn?
  by_cases h : c.role = role ∧ c.principal = p.text
  · rw [List.filter_cons_of_pos (by simpa using h), List.getLast?_cons, if_pos h]
    cases (changes.filter fun c => c.role = role ∧ c.principal = p.text).getLast? <;> rfl
  · rw [List.filter_cons_of_neg (by simpa using h), if_neg h, Option.or_none]

end MemberChange

namespace Contents

variable {contents between contents' : Contents} {id : StoreId} {c : MemberChange}
  {changes : List MemberChange} {reply : Reply} {role : String} {p : Principal} {found : Role}

/-- Whether a principal is written down as a member of the role of a name. -/
def records (contents : Contents) (role : String) (p : Principal) : Bool :=
  (contents.roles.get? role).any (·.isRecorded p)

theorem records_of_get? (h : contents.roles.get? role = some found) (p : Principal) :
    contents.records role p = found.isRecorded p := by
  rw [records, h, Option.any_some]

/-! ## One change -/

/-- The contents are those before with one change of members made. -/
structure Booked (contents : Contents) (c : MemberChange) (contents' : Contents) : Prop where
  records : ∀ role p, contents'.records role p =
    if c.role = role ∧ c.principal = p.text then c.adds else contents.records role p
  elsewhere : ∀ role, role ≠ c.role → contents'.roles.get? role = contents.roles.get? role
  kept : ∀ role, contents'.roles.contains role = contents.roles.contains role
  principals : ∀ p, contents'.principals.contains p = true ↔
    c.adds = true ∧ c.principal = p.text ∨ contents.principals.contains p = true

/-- The role of the change has other members, and the principals on record may be others. -/
theorem booked_insert {changed : Role} {principals : SortedSet Principal}
    (hfound : contents.roles.get? c.role = some found)
    (hrecorded : ∀ q, changed.isRecorded q =
      if c.principal = q.text then c.adds else found.isRecorded q)
    (hprincipals : ∀ q, principals.contains q = true ↔
      c.adds = true ∧ c.principal = q.text ∨ contents.principals.contains q = true) :
    contents.Booked c
      { contents with roles := contents.roles.insert c.role changed, principals } where
  records role q := by
    rw [Contents.records, SortedMap.get?_insert]
    by_cases hrole : role = c.role
    · subst hrole
      simp [hrecorded, records_of_get? hfound]
    · rw [if_neg hrole, if_neg fun h => hrole h.1.symm, Contents.records]
  elsewhere role hrole := by rw [SortedMap.get?_insert, if_neg hrole]
  kept := SortedMap.contains_insert_of_get? hfound
  principals := hprincipals

/-- A change of members that succeeds is booked. A removal answers whether the principal was
recorded. -/
theorem Effect.booked (h : Effect id contents (.request (.change c.change)) reply contents') :
    contents.Booked c contents' ∧ ∃ p, p.text = c.principal ∧
      (c.adds = false → reply = .flag (contents.records c.role p)) := by
  have hsame : ∀ p q : Principal, p.text = q.text ↔ q = p := fun p q =>
    ⟨fun htext => (Principal.ext htext).symm, fun heq => heq ▸ rfl⟩
  cases c with
  | add role principal =>
    cases h with
    | createObject hcreates => cases hcreates
    | createRole hcreates => cases hcreates
    | removeMember hdrops => cases hdrops
    | @addMember _ p found hfound =>
      refine ⟨booked_insert (c := .add role p.text) hfound (fun q => ?_) fun q => ?_, p, rfl,
        fun hdrop => by cases hdrop⟩
      · rw [Role.isRecorded_insertMember]
        by_cases hq : q = p <;> simp [MemberChange.principal, MemberChange.adds, hq, hsame]
      · rw [SortedSet.contains_insert]
        simp [MemberChange.principal, MemberChange.adds, hsame]
  | drop role principal =>
    cases h with
    | createObject hcreates => cases hcreates
    | createRole hcreates => cases hcreates
    | @removeMember _ _ p found hdrops hfound =>
      cases hdrops
      refine ⟨booked_insert (c := .drop role p.text) hfound (fun q => ?_) fun q => ?_, p, rfl,
        fun _ => by rw [MemberChange.role, records_of_get? hfound]; rfl⟩
      · rw [Role.isRecorded_removeMember]
        by_cases hq : q = p <;> simp [MemberChange.principal, MemberChange.adds, hq, hsame]
      · simp [MemberChange.adds]

/-! ## Changes made one after the other -/

/-- The contents are those before with the changes of members made. -/
structure BookedAll (contents : Contents) (changes : List MemberChange) (contents' : Contents) :
    Prop where
  records : ∀ role p, contents'.records role p =
    (MemberChange.lastOn? role p changes).getD (contents.records role p)
  elsewhere : ∀ role, (∀ c ∈ changes, c.role ≠ role) →
    contents'.roles.get? role = contents.roles.get? role
  kept : ∀ role, contents'.roles.contains role = contents.roles.contains role
  principals : ∀ p, contents'.principals.contains p = true ↔
    (∃ c ∈ changes, c.adds = true ∧ c.principal = p.text) ∨ contents.principals.contains p = true

theorem bookedAll_nil (contents : Contents) : contents.BookedAll [] contents where
  records _ _ := rfl
  elsewhere _ _ := rfl
  kept _ := rfl
  principals p := by simp

theorem Booked.bookedAll (h : contents.Booked c between)
    (hrest : between.BookedAll changes contents') :
    contents.BookedAll (c :: changes) contents' where
  records role p := by
    rw [hrest.records, h.records, MemberChange.lastOn?_cons]
    cases MemberChange.lastOn? role p changes with
    | some adds => rfl
    | none =>
      rw [Option.none_or, Option.getD_none]
      split <;> rfl
  elsewhere role hrole := by
    obtain ⟨hfirst, hlater⟩ := List.forall_mem_cons.1 hrole
    rw [hrest.elsewhere role hlater, h.elsewhere role hfirst.symm]
  kept role := by rw [hrest.kept, h.kept]
  principals p := by
    rw [hrest.principals, h.principals]
    simp only [List.mem_cons, exists_eq_or_imp, or_assoc, or_left_comm]

end Contents

namespace Store

variable {store : Store} {handle : HandleId} {connection : Connection} {caller : Thread}
  {contents : Contents} {changes : List MemberChange}

/-- Changes of members that a caller makes through a handle, one after the other. -/
def memberEvents (handle : HandleId) (caller : Thread) (changes : List MemberChange) :
    List Event :=
  changes.map fun c => .call handle caller (.request (.change c.change))

theorem memberEvents_cons (handle : HandleId) (caller : Thread) (c : MemberChange)
    (changes : List MemberChange) :
    memberEvents handle caller (c :: changes) =
      .call handle caller (.request (.change c.change)) :: memberEvents handle caller changes :=
  rfl

theorem memberEvents_append (handle : HandleId) (caller : Thread)
    (changes rest : List MemberChange) :
    memberEvents handle caller (changes ++ rest) =
      memberEvents handle caller changes ++ memberEvents handle caller rest :=
  List.map_append

/-- A change of members that succeeds is booked in the transaction of its handle. -/
theorem booked_of_step {c : MemberChange} (hconnection : store.connection? handle = some connection)
    (hwrites : connection.Writes caller contents)
    (hdone : (store.step (.call handle caller (.request (.change c.change)))).1.reply?.isSome) :
    ∃ reply contents', contents.Booked c contents' ∧
      (∃ p, p.text = c.principal ∧ (c.adds = false → reply = .flag (contents.records c.role p))) ∧
      (store.step (.call handle caller (.request (.change c.change)))).1 = .called (.ok reply) ∧
      (store.step (.call handle caller (.request (.change c.change)))).2.connection? handle =
        some (connection.withPending contents') := by
  obtain ⟨reply, hreply⟩ := Option.isSome_iff_exists.1 hdone
  have hstep := step_eq_of_reply? hreply
  obtain ⟨contents₀, contents', hwrites₀, heffect, hstore⟩ := effect_of_step hconnection rfl hstep
  obtain rfl : contents₀ = contents := Option.some.inj (hwrites₀.pending.symm.trans hwrites.pending)
  obtain ⟨hbooked, hanswer⟩ := heffect.booked
  refine ⟨reply, contents', hbooked, hanswer, Outcome.reply?_eq_some_iff.1 hreply, ?_⟩
  have hid : connection.storeId = store.id := storeId_of_connection? hconnection
  rw [hstore, connection?_update (show (connection.withPending contents').storeId = _ from hid)]

/-- Changes of members that all succeed are booked in the transaction of their handle. -/
theorem bookedAll_of_run (hconnection : store.connection? handle = some connection)
    (hwrites : connection.Writes caller contents)
    (hdone : ∀ outcome ∈ (store.run (memberEvents handle caller changes)).1,
      outcome.reply?.isSome) :
    ∃ contents', contents.BookedAll changes contents' ∧
      (store.run (memberEvents handle caller changes)).2.connection? handle =
        some (connection.withPending contents') := by
  induction changes generalizing store connection contents with
  | nil =>
    refine ⟨contents, contents.bookedAll_nil, ?_⟩
    rw [hwrites.withPending_eq]
    exact hconnection
  | cons c changes ih =>
    rw [memberEvents_cons, run_cons, List.forall_mem_cons] at hdone
    obtain ⟨hfirst, hrest⟩ := hdone
    obtain ⟨-, between, hbooked, -, -, hnext⟩ := booked_of_step hconnection hwrites hfirst
    obtain ⟨contents', hbookedAll, hlast⟩ := ih hnext (hwrites.withPending between) hrest
    exact ⟨contents', hbooked.bookedAll hbookedAll, hlast⟩

/-- A removal among the changes answers whether the principal was recorded just before. -/
theorem answer_of_drop {before rest : List MemberChange} {role principal : String}
    (hconnection : store.connection? handle = some connection)
    (hwrites : connection.Writes caller contents)
    (hdone : ∀ outcome ∈
      (store.run (memberEvents handle caller (before ++ .drop role principal :: rest))).1,
      outcome.reply?.isSome) :
    ∃ p between, p.text = principal ∧
      (store.run (memberEvents handle caller before)).2.pending? handle = some between ∧
      (store.run (memberEvents handle caller (before ++ .drop role principal :: rest))).1[
        before.length]? = some (.called (.ok (.flag (between.records role p)))) := by
  rw [memberEvents_append, run_append] at hdone ⊢
  obtain ⟨hbefore, hafter⟩ := List.forall_mem_append.1 hdone
  obtain ⟨between, -, hbetween⟩ := bookedAll_of_run hconnection hwrites hbefore
  rw [memberEvents_cons, run_cons] at hafter ⊢
  obtain ⟨hdrop, -⟩ := List.forall_mem_cons.1 hafter
  obtain ⟨reply, -, -, ⟨p, htext, hanswer⟩, hreply, -⟩ :=
    booked_of_step hbetween (hwrites.withPending between) hdrop
  refine ⟨p, between, htext, pending?_of_connection? hbetween, ?_⟩
  have hlength : (store.run (memberEvents handle caller before)).1.length = before.length := by
    rw [length_run, memberEvents, List.length_map]
  rw [List.getElem?_append_right (Nat.le_of_eq hlength), hlength, Nat.sub_self,
    List.getElem?_cons_zero, hreply, hanswer rfl]
  rfl

/-! ## What is told of roles -/

/-- Everything that can be asked about a role of the transaction tells the same of its members. -/
theorem reads_of_role {role : String} {found : Role}
    (hconnection : store.connection? handle = some connection)
    (hwrites : connection.Writes caller contents) (hsound : contents.Sound)
    (hfound : contents.roles.get? role = some found) (p : Principal) :
    found.hasMember p = (namesEveryone role || contents.records role p) ∧
      store.read handle caller (.hasMember role p.text) =
        .called (.ok (.flag (found.hasMember p))) ∧
      store.read handle caller (.lookUpRole role) = .called (.ok (.role found)) ∧
      (∃ roles, store.read handle caller .shownRoles = .called (.ok (.roles roles)) ∧
        ∀ other, other ∈ roles ∧ other.name = role ↔ other = found) ∧
      connection.view.roleIncludes p role = .ok (found.hasMember p) := by
  have husable : connection.view.requireUsable caller = .ok () := hwrites.usable
  have hvisible : connection.visible = contents := Connection.visible_eq hwrites
  have hfind : connection.view.findRole role = .ok (some found) := by
    rw [← hfound, ← hvisible]
    rfl
  have hname : found.isEveryone = namesEveryone role := by
    rw [Role.isEveryone, (hsound.role_filed hfound).1]
  have hmember : found.hasMember p = (namesEveryone role || contents.records role p) := by
    rw [Role.hasMember, hname, Contents.records_of_get? hfound]
  refine ⟨hmember, ?_, ?_, ⟨contents.roles.values, ?_, fun other => ?_⟩, ?_⟩
  · simp [read_eq hconnection, AccessView.reply, AccessView.hasMember, AccessView.requireRole,
      husable, hfind, Principal.parse_text]
  · simp [read_eq hconnection, AccessView.reply, AccessView.lookUpRole, AccessView.requireRole,
      husable, hfind]
  · rw [← hvisible, read_eq hconnection, AccessView.reply, AccessView.shownRoles, husable]
    rfl
  · rw [hsound.mem_values_roles_iff]
    constructor
    · rintro ⟨hother, rfl⟩
      exact Option.some.inj (hother.symm.trans hfound)
    · rintro rfl
      obtain ⟨rfl, -⟩ := hsound.role_filed hfound
      exact ⟨hfound, rfl⟩
  · rw [Connection.toGrantSource_view, hvisible, Contents.roleIncludes_source,
      Contents.includes_of_get? hfound, hname, Role.hasMember, hname, ← Bool.or_assoc, Bool.or_self]

/-! ## The whole -/

/-- **Who is a member goes by the last change.** Whenever changes of members are made in the
transaction of a usable handle of a reachable store, and all succeed:

* a principal is recorded in a role just if the last change of the two was to add it, or there was
  none and it was recorded before;
* each removal answered whether the principal was recorded just before;
* the members of every role are in strictly ascending order, and counted as many as they are;
* roles that no change names are as they were, and no role comes or goes;
* for every role, and there is that of everyone, the question whether it has a member, the role
  that is looked up, the listed one and the resolution agree: the role of everyone includes
  everybody, and any other whoever is recorded;
* the principals on record are those of before and all that were added. -/
theorem membership_kept (h : store.Reachable)
    (hconnection : store.connection? handle = some connection)
    (hwrites : connection.Writes caller contents)
    (hdone : ∀ outcome ∈ (store.run (memberEvents handle caller changes)).1,
      outcome.reply?.isSome) :
    ∃ connection' contents',
      let outcomes := (store.run (memberEvents handle caller changes)).1
      let store' := (store.run (memberEvents handle caller changes)).2
      store'.connection? handle = some connection' ∧ connection'.Writes caller contents' ∧
      (∀ role p, contents'.records role p = true ↔
        MemberChange.lastOn? role p changes = some true ∨
          MemberChange.lastOn? role p changes = none ∧ contents.records role p = true) ∧
      (∀ before role principal rest, changes = before ++ .drop role principal :: rest →
        ∃ p between, p.text = principal ∧
          (store.run (memberEvents handle caller before)).2.pending? handle = some between ∧
          outcomes[before.length]? = some (.called (.ok (.flag (between.records role p))))) ∧
      (∀ role found, contents'.roles.get? role = some found →
        found.members.toList.Pairwise (fun p q => compare p q = .lt) ∧
          found.memberCount = found.members.toList.length) ∧
      (∀ role, (∀ c ∈ changes, c.role ≠ role) →
        contents'.roles.get? role = contents.roles.get? role) ∧
      (∀ role, contents'.roles.contains role = contents.roles.contains role) ∧
      contents'.roles.contains everyoneName = true ∧
      (∀ role found, contents'.roles.get? role = some found → ∀ p,
        found.hasMember p = (namesEveryone role || contents'.records role p) ∧
          store'.read handle caller (.hasMember role p.text) =
            .called (.ok (.flag (found.hasMember p))) ∧
          store'.read handle caller (.lookUpRole role) = .called (.ok (.role found)) ∧
          (∃ roles, store'.read handle caller .shownRoles = .called (.ok (.roles roles)) ∧
            ∀ other, other ∈ roles ∧ other.name = role ↔ other = found) ∧
          connection'.view.roleIncludes p role = .ok (found.hasMember p)) ∧
      ∀ p, contents'.principals.contains p = true ↔
        (∃ c ∈ changes, c.adds = true ∧ c.principal = p.text) ∨
          contents.principals.contains p = true := by
  obtain ⟨contents', hbooked, hconnection'⟩ := bookedAll_of_run hconnection hwrites hdone
  have hwrites' := hwrites.withPending contents'
  have hsound : contents'.Sound :=
    ((h.run _).sound.of_connection? hconnection').pending hwrites'.pending
  refine ⟨_, contents', hconnection', hwrites', fun role p => ?_, ?_,
    fun role found _ => ⟨found.members.toList_ascending, rfl⟩, hbooked.elsewhere, hbooked.kept,
    hsound.everyone, fun role found hfound p => reads_of_role hconnection' hwrites' hsound hfound p,
    hbooked.principals⟩
  · rw [hbooked.records]
    cases MemberChange.lastOn? role p changes <;> simp
  · rintro before role principal rest rfl
    exact answer_of_drop hconnection hwrites hdone

/-- Bob joins the editors and leaves them, leaves everyone without having joined, and joins the
editors again. -/
theorem membership_kept_joining_again :
    let alice : Principal := ⟨"alice", by decide⟩
    let bob : Principal := ⟨"bob", by decide⟩
    let events : List Event :=
      [.openHandle ⟨0⟩ alice.text, .call ⟨0⟩ ⟨0⟩ .begin,
        .call ⟨0⟩ ⟨0⟩ (.request (.change (.addRole "editors")))]
    let changes : List MemberChange :=
      [.add "editors" bob.text, .drop "editors" bob.text, .drop everyoneName bob.text,
        .add "editors" bob.text]
    ∃ start : Store, Store.ofClasses ⟨0⟩ [] = .ok start ∧ ∃ connection' contents',
      let store' := ((start.run events).2.run (memberEvents ⟨0⟩ ⟨0⟩ changes)).2
      store'.connection? ⟨0⟩ = some connection' ∧ connection'.Writes ⟨0⟩ contents' ∧
        contents'.records "editors" bob = true ∧ contents'.records everyoneName bob = false ∧
        store'.read ⟨0⟩ ⟨0⟩ (.hasMember everyoneName bob.text) = .called (.ok (.flag true)) ∧
        contents'.principals.contains bob = true := by
  intro alice bob events changes
  have hnew : Store.ofClasses ⟨0⟩ [] = .ok _ := rfl
  refine ⟨_, hnew, ?_⟩
  have hreachable := (Reachable.ofClasses hnew).run events
  simp only [events, run_cons, step_openHandle, Principal.parse_text] at hreachable ⊢
  obtain ⟨connection', contents', hconnection', hwrites', hrecords, -, -, -, -, heveryone, hreads,
    hprincipals⟩ := membership_kept hreachable (show Store.connection? _ ⟨0⟩ = some _ from rfl)
    (show Connection.Writes _ ⟨0⟩ _ from ⟨rfl, rfl⟩)
    (show ∀ outcome ∈ (Store.run _ (memberEvents ⟨0⟩ ⟨0⟩ changes)).1, outcome.reply?.isSome by
      decide +kernel)
  refine ⟨connection', contents', hconnection', hwrites', ?_, ?_, ?_, ?_⟩
  · exact (hrecords _ _).2 (.inl (by decide))
  · refine Bool.eq_false_iff.2 fun hrecorded => ?_
    rcases (hrecords _ _).1 hrecorded with hlast | ⟨hlast, -⟩
    · exact absurd hlast (by decide)
    · exact absurd hlast (by decide)
  · obtain ⟨found, hfound⟩ := Option.isSome_iff_exists.1 heveryone
    obtain ⟨hmember, hread, -⟩ := hreads everyoneName found hfound bob
    rw [hread, hmember]
    rfl
  · exact (hprincipals bob).2 (.inl ⟨.add "editors" bob.text, List.mem_cons_self, rfl, rfl⟩)

end Store

end StoreAccess
