import StoreAccess.Proofs.Store.Resolving

/-!
# Changes of members concern one principal

Adding a principal to a role, or taking it out, changes whom that role includes by this principal
at most, and changes no list of grants. So nobody else's privileges change, and those of the
principal change in one direction and only where the role has an entry. The role *everyone*
includes everybody, whatever is recorded of its members.

Main statement: `members_concern_one`.
-/

namespace StoreAccess

/-- What a resolution gave before and after: privileges that only grew, or the same failure. -/
inductive Outcome.Widens : Outcome → Outcome → Prop
  | fails {error : AccessError} : Widens (.called (.error error)) (.called (.error error))
  | allows {before after : Privileges} :
      (∀ c, before.allows c = true → after.allows c = true) →
        Widens (.called (.ok (.privileges before))) (.called (.ok (.privileges after)))

namespace Contents

variable {contents contents' : Contents} {id : StoreId} {change : RoleChange} {reply : Reply}
  {role other : String} {p q : Principal} {scope : Scope} {before after : Role}

/-! ## Whom roles include -/

theorem includes_everyone (contents : Contents) (q : Principal) :
    contents.includes q everyoneName = true := by
  simp [includes, namesEveryone]

theorem includes_of_get? (h : contents.roles.get? role = some before) (q : Principal) :
    contents.includes q role =
      (namesEveryone role || (before.isEveryone || before.isRecorded q)) := by
  rw [includes, h, Option.any_some, Role.hasMember]

/-- The contents have the same lists of grants, and the same roles but for the recorded members of
one. -/
structure MembersChanged (contents contents' : Contents) (role : String) (before after : Role) :
    Prop where
  agreeAt : ∀ scope, contents.AgreeAt contents' scope
  get?_before : contents.roles.get? role = some before
  get?_after : contents'.roles.get? role = some after
  elsewhere : ∀ other, other ≠ role → contents'.roles.get? other = contents.roles.get? other
  isEveryone_eq : after.isEveryone = before.isEveryone

/-- Where the same members are recorded, the same principals are included. -/
theorem MembersChanged.includes_eq (h : contents.MembersChanged contents' role before after)
    (hsame : other = role → after.isRecorded q = before.isRecorded q) :
    contents'.includes q other = contents.includes q other := by
  by_cases hother : other = role
  · have hrecorded := hsame hother
    rw [hother, includes_of_get? h.get?_before, includes_of_get? h.get?_after, h.isEveryone_eq,
      hrecorded]
  · rw [includes, includes, h.elsewhere other hother]

theorem MembersChanged.symm (h : contents.MembersChanged contents' role before after) :
    contents'.MembersChanged contents role after before where
  agreeAt scope := (h.agreeAt scope).symm
  get?_before := h.get?_after
  get?_after := h.get?_before
  elsewhere other hother := (h.elsewhere other hother).symm
  isEveryone_eq := h.isEveryone_eq.symm

/-- Where more members are recorded, more principals are included. -/
theorem MembersChanged.includes_mono (h : contents.MembersChanged contents' role before after)
    (hmore : before.isRecorded q = true → after.isRecorded q = true)
    (hincludes : contents.includes q other = true) : contents'.includes q other = true := by
  by_cases hother : other = role
  · rw [hother, includes_of_get? h.get?_before] at hincludes
    rw [hother, includes_of_get? h.get?_after, h.isEveryone_eq]
    simp only [Bool.or_eq_true] at hincludes ⊢
    exact hincludes.imp_right (Or.imp_right hmore)
  · rwa [includes, h.elsewhere other hother, ← includes]

theorem membersChanged_insert (principals : SortedSet Principal)
    (hbefore : contents.roles.get? role = some before)
    (hname : after.isEveryone = before.isEveryone) :
    contents.MembersChanged
      { contents with roles := contents.roles.insert role after, principals := principals }
      role before after where
  agreeAt _ := ⟨fun _ => rfl, fun _ => rfl, fun _ _ => rfl, fun _ _ => rfl⟩
  get?_before := hbefore
  get?_after := (SortedMap.get?_insert ..).trans (if_pos rfl)
  elsewhere _ hother := (SortedMap.get?_insert ..).trans (if_neg hother)
  isEveryone_eq := hname

theorem Effect.membersChanged_of_adds
    (h : Effect id contents (.request (.change change)) reply contents')
    (hadds : change.Adds role p) :
    ∃ before, contents.MembersChanged contents' role before (before.insertMember p).2 := by
  obtain ⟨text, sound⟩ := p
  cases hadds with
  | addMember =>
    cases h with
    | addMember hfound => exact ⟨_, membersChanged_insert _ hfound rfl⟩
    | createObject hcreates => cases hcreates
    | createRole hcreates => cases hcreates
    | removeMember hdrops => cases hdrops
  | insertMember =>
    cases h with
    | insertMember hfound => exact ⟨_, membersChanged_insert _ hfound rfl⟩
    | createObject hcreates => cases hcreates
    | createRole hcreates => cases hcreates
    | removeMember hdrops => cases hdrops

theorem Effect.membersChanged_of_drops
    (h : Effect id contents (.request (.change change)) reply contents')
    (hdrops : change.Drops role p) :
    ∃ before, contents.MembersChanged contents' role before (before.removeMember p).2 := by
  obtain ⟨text, sound⟩ := p
  cases hdrops with
  | dropMember =>
    cases h with
    | removeMember hdrops hfound =>
      cases hdrops
      exact ⟨_, membersChanged_insert _ hfound rfl⟩
    | createObject hcreates => cases hcreates
    | createRole hcreates => cases hcreates
  | removeMember =>
    cases h with
    | removeMember hdrops hfound =>
      cases hdrops
      exact ⟨_, membersChanged_insert _ hfound rfl⟩
    | createObject hcreates => cases hcreates
    | createRole hcreates => cases hcreates

/-- Either way, only the principal itself may be recorded before and not after, or the other way
round. -/
theorem Effect.membersChanged (h : Effect id contents (.request (.change change)) reply contents')
    (hchange : change.Adds role p ∨ change.Drops role p) :
    ∃ before after, contents.MembersChanged contents' role before after ∧
      ∀ q, q ≠ p → after.isRecorded q = before.isRecorded q := by
  rcases hchange with hadds | hdrops
  · obtain ⟨before, hroles⟩ := h.membersChanged_of_adds hadds
    refine ⟨before, _, hroles, fun q hq => ?_⟩
    rw [Role.isRecorded_insertMember, decide_eq_false hq, Bool.false_or]
  · obtain ⟨before, hroles⟩ := h.membersChanged_of_drops hdrops
    refine ⟨before, _, hroles, fun q hq => ?_⟩
    rw [Role.isRecorded_removeMember, decide_eq_false hq, Bool.not_false, Bool.true_and]

/-! ## What that does to privileges -/

/-- Where the same principals are included in the roles that have an entry, privileges stay as they
are. -/
theorem MembersChanged.privileges_eq (h : contents.MembersChanged contents' role before after)
    (hsame : ∀ l, contents.source.grantsAt scope = .ok l → ∀ other ∈ l.roles,
      contents'.includes q other = contents.includes q other) :
    contents'.source.privileges q scope = contents.source.privileges q scope :=
  (h.agreeAt scope).privileges_eq hsame

/-- Roles of contents can always be looked up. -/
theorem roleRead_source (contents : Contents) (role : String) : contents.source.RoleRead role :=
  .inr ⟨_, rfl⟩

/-- Where more principals are included, privileges grow. -/
theorem MembersChanged.widens (h : contents.MembersChanged contents' role before after)
    (hmore : ∀ other, contents.includes q other = true → contents'.includes q other = true) :
    Outcome.Widens (.called (Reply.privileges <$> contents.source.privileges q scope))
      (.called (Reply.privileges <$> contents'.source.privileges q scope)) := by
  have hgrants := (h.agreeAt scope).grantsAt_eq
  rcases hl : contents.source.grantsAt scope with error | l
  · have hbefore : contents.source.privileges q scope = .error error := by
      simp [GrantSource.privileges, hl]
    have hafter : contents'.source.privileges q scope = .error error := by
      simp [GrantSource.privileges, hgrants, hl]
    rw [hbefore, hafter]
    exact .fails
  · obtain ⟨v, hv, hallows⟩ := GrantSource.privileges_eq_ok (GrantSource.grantsAt_eq_ok_iff.1 hl)
      (fun g _ => contents.roleRead_source g.role) q
    obtain ⟨w, hw, hallows'⟩ := GrantSource.privileges_eq_ok
      (GrantSource.grantsAt_eq_ok_iff.1 (hgrants.trans hl))
      (fun g _ => contents'.roleRead_source g.role) q
    rw [hv, hw]
    refine .allows fun c hc => ?_
    rcases (hallows c).1 hc with ⟨g, hg, hgc, hincludes⟩ | htemplate
    · -- The grant that gives the capability still counts.
      rw [includes_source_iff] at hincludes
      exact (hallows' c).2 (.inl ⟨g, hg, hgc, includes_source_iff.2 (hmore g.role hincludes)⟩)
    · exact (hallows' c).2 (.inr htemplate)

end Contents

namespace Store

variable {store store' : Store} {handle : HandleId} {connection : Connection} {caller : Thread}
  {change : RoleChange} {reply : Reply} {role : String} {p : Principal}

/-- **Changes of members concern one principal only and are monotone.** Whenever a change through a
live handle that adds a principal to a role, or takes it out, succeeds, resolutions through that
handle answer as follows afterwards. Everybody else has the privileges it had, at every scope. So
has the principal at a scope where the role has no entry, and everybody if the role is that of
everyone. The privileges of the principal grow or stay if it was added, and those it has were had
before if it was taken out. -/
theorem members_concern_one (hconnection : store.connection? handle = some connection)
    (hstep : store.step (.call handle caller (.request (.change change))) =
      (.called (.ok reply), store')) (scope : Scope) (reader : Thread) :
    (change.Adds role p ∨ change.Drops role p →
      (∀ q, q ≠ p → store'.read handle reader (.privilegesOf q.text scope) =
        store.read handle reader (.privilegesOf q.text scope)) ∧
      ((∀ l, connection.view.grantsAt scope = .ok l → role ∉ l.roles) →
        store'.read handle reader (.privilegesOf p.text scope) =
          store.read handle reader (.privilegesOf p.text scope)) ∧
      (role = everyoneName → ∀ principal,
        store'.read handle reader (.privilegesOf principal scope) =
          store.read handle reader (.privilegesOf principal scope))) ∧
    (change.Adds role p → (store.read handle reader (.privilegesOf p.text scope)).Widens
      (store'.read handle reader (.privilegesOf p.text scope))) ∧
    (change.Drops role p → (store'.read handle reader (.privilegesOf p.text scope)).Widens
      (store.read handle reader (.privilegesOf p.text scope))) := by
  obtain ⟨connection', hconnection', heffect⟩ := effect_on_resolution hconnection rfl hstep
  refine ⟨fun hchange => ?_, fun hadds => ?_, fun hdrops => ?_⟩
  · obtain ⟨before, after, hroles, hothers⟩ := heffect.membersChanged hchange
    refine ⟨fun q hq => ?_, fun hnone => ?_, fun heveryone principal => ?_⟩
    · rw [read_privilegesOf hconnection, read_privilegesOf hconnection', hroles.privileges_eq]
      exact fun l _ other _ => hroles.includes_eq fun _ => hothers q hq
    · rw [read_privilegesOf hconnection, read_privilegesOf hconnection', hroles.privileges_eq]
      intro l hl other hother
      have hne : other ≠ role := fun heq => hnone l hl (heq ▸ hother)
      exact hroles.includes_eq fun heq => absurd heq hne
    · refine read_privilegesOf_congr hconnection hconnection' (fun q => ?_) reader principal
      refine hroles.privileges_eq fun l _ other _ => ?_
      by_cases hother : other = role
      · rw [hother, heveryone, Contents.includes_everyone, Contents.includes_everyone]
      · exact hroles.includes_eq fun heq => absurd heq hother
  · obtain ⟨before, hroles⟩ := heffect.membersChanged_of_adds hadds
    rw [read_privilegesOf hconnection, read_privilegesOf hconnection']
    refine hroles.widens fun other => hroles.includes_mono fun hrecorded => ?_
    rw [Role.isRecorded_insertMember, hrecorded, Bool.or_true]
  · obtain ⟨before, hroles⟩ := heffect.membersChanged_of_drops hdrops
    rw [read_privilegesOf hconnection, read_privilegesOf hconnection']
    refine hroles.symm.widens fun other => hroles.symm.includes_mono fun hrecorded => ?_
    rw [Role.isRecorded_removeMember, Bool.and_eq_true] at hrecorded
    exact hrecorded.2

/-- Adding bob to a role that has an entry on a class and none on the store. -/
theorem members_concern_one_editor :
    let alice : Principal := ⟨"alice", by decide⟩
    let bob : Principal := ⟨"bob", by decide⟩
    let events : List Event :=
      [.openHandle ⟨0⟩ alice.text, .call ⟨0⟩ ⟨0⟩ .begin,
        .call ⟨0⟩ ⟨0⟩ (.grantOnClass "Document" "editors" .all)]
    let add : RoleChange := .addMember "editors" bob.text
    ∃ start : Store, Store.ofClasses ⟨0⟩ ["Document"] = .ok start ∧ ∃ store',
      (start.run events).2.step (.call ⟨0⟩ ⟨0⟩ (.request (.change add))) =
        (.called (.ok .done), store') ∧ ∀ reader,
          store'.read ⟨0⟩ reader (.privilegesOf alice.text (.ofClass "Document")) =
            (start.run events).2.read ⟨0⟩ reader
              (.privilegesOf alice.text (.ofClass "Document")) ∧
          store'.read ⟨0⟩ reader (.privilegesOf bob.text .store) =
            (start.run events).2.read ⟨0⟩ reader (.privilegesOf bob.text .store) ∧
          ((start.run events).2.read ⟨0⟩ reader
              (.privilegesOf bob.text (.ofClass "Document"))).Widens
            (store'.read ⟨0⟩ reader (.privilegesOf bob.text (.ofClass "Document"))) := by
  intro alice bob events add
  have hnew : Store.ofClasses ⟨0⟩ ["Document"] = .ok _ := rfl
  have hadds : add.Adds "editors" bob := .addMember
  refine ⟨_, hnew, ?_⟩
  simp only [events, run_cons, step_openHandle, Principal.parse_text]
  refine Exists.imp (fun store' hstep => ⟨hstep, fun reader => ⟨?_, ?_, ?_⟩⟩)
    ⟨_, step_eq_of_reply? (by decide +kernel)⟩
  · exact ((members_concern_one (by rfl) hstep _ reader).1 (.inl hadds)).1 alice (by decide)
  · refine ((members_concern_one (by rfl) hstep _ reader).1 (.inl hadds)).2.1 fun l hl => ?_
    have hempty : l = .empty := (Except.ok.inj hl).symm
    rw [hempty]
    exact List.not_mem_nil
  · exact (members_concern_one (by rfl) hstep _ reader).2.1 hadds

end Store

end StoreAccess
