import Mathlib.Data.List.Nodup
import StoreAccess.Proofs.Resolution
import StoreAccess.Proofs.Store.Integrity

/-!
# What inspection shows

A resolution adds the template of a scope to what the grants give, where no grant speaks of
everyone. Inspection writes the same template out, as an entry in front of the grants. Whoever
adds up the entries that are shown, and nothing else, comes to the privileges that were resolved:
`Tallies` says so of a list and privileges.

Main statement: `inspection_tallies`.
-/

namespace StoreAccess

/-! ## The entries that are shown -/

namespace Policy

variable {kind : ScopeKind} {l : GrantList}

theorem shown_of_everyone (h : everyoneName ∈ l.roles) : shown kind l = l := by
  rw [shown, fallback?_eq, if_pos h]

/-- Nothing but the entry in front is added, and no entry is lost to it. -/
theorem entries_shown (hl : l.Distinct) (h : everyoneName ∉ l.roles) :
    (shown kind l).entries = .toRole .everyone (template kind) :: l.entries := by
  have hroles : ((Grant.toRole .everyone (template kind) :: l.entries).map (·.role)).Nodup :=
    List.nodup_cons.2 ⟨h, hl⟩
  rw [shown, fallback?_eq, if_neg h, GrantList.entries_ofList hroles]

theorem mem_shown_iff (hl : l.Distinct) {g : Grant} :
    g ∈ (shown kind l).entries ↔
      g ∈ l.entries ∨ everyoneName ∉ l.roles ∧ g = .toRole .everyone (template kind) := by
  by_cases h : everyoneName ∈ l.roles
  · simp [shown_of_everyone h, h]
  · simp [entries_shown hl h, h, or_comm]

theorem count_everyone_shown (hl : l.Distinct) :
    (shown kind l).roles.count everyoneName = 1 := by
  by_cases h : everyoneName ∈ l.roles
  · rw [shown_of_everyone h]
    exact List.count_eq_one_of_mem hl h
  · rw [GrantList.roles, entries_shown hl h, List.map_cons]
    exact List.count_eq_one_of_mem (List.nodup_cons.2 ⟨h, hl⟩) List.mem_cons_self

end Policy

/-! ## Adding up what is shown -/

namespace GrantSource

variable {source : GrantSource} {p : Principal}

/-- The list speaks of everyone once, and the privileges are what its entries for the roles that
include the principal give. -/
structure Tallies (source : GrantSource) (p : Principal) (l : GrantList) (v : Privileges) :
    Prop where
  everyone : l.roles.count everyoneName = 1
  allows_iff : ∀ c, v.allows c = true ↔
    ∃ g ∈ l.entries, g.allows c = true ∧ source.Includes p g.role

/-- Privileges are resolved only from grants of which all roles were read. -/
theorem candidates_of_privileges {scope : Scope} {v : Privileges}
    (h : source.privileges p scope = .ok v) :
    ∃ l, source.Candidates scope l ∧ ∀ c, v.allows c = true ↔
      (∃ g ∈ l.entries, g.allows c = true ∧ source.Includes p g.role) ∨
        everyoneName ∉ l.roles ∧ (Policy.template scope.kind).allows c = true := by
  obtain ⟨l, hgrants, -⟩ := bind_eq_ok_iff.1 h
  have hl := grantsAt_eq_ok_iff.1 hgrants
  rcases rolesRead_or_unread source l.entries with hread | ⟨error, hunread⟩
  · obtain ⟨v', hv', hallows⟩ := privileges_eq_ok hl hread p
    rw [h] at hv'
    cases hv'
    exact ⟨l, hl, hallows⟩
  · have herror := privileges_eq_error_iff (p := p).2 (.roleUnread hl hunread)
    rw [h] at herror
    cases herror

theorem tallies_shown {kind : ScopeKind} {l : GrantList} {v : Privileges} (hl : l.Distinct)
    (h : ∀ c, v.allows c = true ↔
      (∃ g ∈ l.entries, g.allows c = true ∧ source.Includes p g.role) ∨
        everyoneName ∉ l.roles ∧ (Policy.template kind).allows c = true) :
    source.Tallies p (Policy.shown kind l) v where
  everyone := Policy.count_everyone_shown hl
  allows_iff c := by
    rw [h]
    constructor
    · rintro (⟨g, hg, hallows, hin⟩ | ⟨hnone, hallows⟩)
      · exact ⟨g, (Policy.mem_shown_iff hl).2 (.inl hg), hallows, hin⟩
      · exact ⟨_, (Policy.mem_shown_iff hl).2 (.inr ⟨hnone, rfl⟩), hallows, .inl rfl⟩
    · rintro ⟨g, hg, hallows, hin⟩
      rcases (Policy.mem_shown_iff hl).1 hg with hg | ⟨hnone, rfl⟩
      · exact .inl ⟨g, hg, hallows, hin⟩
      · exact .inr ⟨hnone, hallows⟩

end GrantSource

namespace AccessView

variable {view : AccessView} {caller : Thread} {v : Privileges}

/-- No list of grants on the store or on a class has two entries for a role. -/
structure Inspectable (view : AccessView) : Prop where
  realm : ∀ {realm : RealmGrants}, view.realmGrants = .ok realm → realm.grants.Distinct
  ofClass : ∀ {className : String} {kept : ClassGrants},
    view.classGrants className = .ok (some kept) → kept.grants.Distinct

theorem Inspectable.shownRealm (h : view.Inspectable)
    (hv : view.storePrivileges caller = .ok v) :
    ∃ shown, view.shownRealm caller = .ok shown ∧
      view.Tallies view.principal shown.grants v := by
  obtain ⟨_, husable, hv⟩ := bind_eq_ok_iff.1 hv
  obtain ⟨l, hl, hallows⟩ := GrantSource.candidates_of_privileges hv
  cases hl with
  | @store realm hrealm =>
    exact ⟨⟨Policy.shown .store realm.grants⟩, by simp [AccessView.shownRealm, husable, hrealm],
      GrantSource.tallies_shown (h.realm hrealm) hallows⟩

theorem Inspectable.shownClass (h : view.Inspectable) {target : ClassTarget}
    (hv : view.classPrivileges caller target = .ok v) :
    ∃ shown, view.shownClass caller target = .ok shown ∧
      view.Tallies view.principal shown.grants v := by
  obtain ⟨_, husable, hv⟩ := bind_eq_ok_iff.1 hv
  obtain ⟨className, hclass, hv⟩ := bind_eq_ok_iff.1 hv
  obtain ⟨l, hl, hallows⟩ := GrantSource.candidates_of_privileges hv
  cases hl with
  | @ofClass _ kept hschema hkept =>
    exact ⟨{ kept with grants := Policy.shown .ofClass kept.grants },
      by simp [AccessView.shownClass, husable, hclass, hkept],
      GrantSource.tallies_shown (h.ofClass hkept) hallows⟩
  | emptyClass hschema hnone =>
    -- A class for which nothing is kept is shown as one without grants.
    have hnew := ClassGrants.ofName_eq_ok_iff.2 ⟨rfl, hschema.1⟩
    exact ⟨⟨className, Policy.shown .ofClass .empty⟩,
      by simp [AccessView.shownClass, husable, hclass, hnone, hnew],
      GrantSource.tallies_shown GrantList.nodup_empty hallows⟩

end AccessView

theorem Store.Reachable.inspectable {store : Store} (h : store.Reachable) {handle : HandleId}
    {connection : Connection} (hconnection : store.connection? handle = some connection) :
    connection.view.Inspectable := by
  have hsound := (h.sound.of_connection? hconnection).visible
  refine ⟨fun hrealm => ?_, fun hkept => ?_⟩
  · rw [← Except.ok.inj hrealm]
    exact hsound.realm_backed.distinct
  · exact (hsound.class_backed (Except.ok.inj hkept)).distinct

/-- **Inspection agrees with resolution.** When no list of grants has two entries for a role, and
the caller gets privileges on the store or on a class, inspection shows the caller a list that
speaks of everyone once and adds up to just these privileges, whether or not anything is kept for
the class. No role has to be readable for that, as there are no privileges where one is not. This
goes for every handle of a reachable store. -/
theorem inspection_tallies :
    (∀ view : AccessView, view.Inspectable → ∀ caller,
      (∀ v, view.storePrivileges caller = .ok v →
        ∃ shown, view.shownRealm caller = .ok shown ∧
          view.Tallies view.principal shown.grants v) ∧
      ∀ target v, view.classPrivileges caller target = .ok v →
        ∃ shown, view.shownClass caller target = .ok shown ∧
          view.Tallies view.principal shown.grants v) ∧
    ∀ (store : Store) handle connection, store.Reachable →
      store.connection? handle = some connection → connection.view.Inspectable :=
  ⟨fun _ h _ => ⟨fun _ => h.shownRealm, fun _ _ => h.shownClass⟩,
    fun _ _ _ h hconnection => h.inspectable hconnection⟩

/-- Alice, an editor, who works on a class with a grant to editors. -/
theorem inspection_tallies_editor :
    let alice : Principal := ⟨"alice", by decide⟩
    let events : List Event :=
      [.openHandle ⟨0⟩ alice.text, .call ⟨0⟩ ⟨0⟩ .begin,
        .call ⟨0⟩ ⟨0⟩ (.grantOnClass "Document" "editors" (.ofList [.delete])),
        .call ⟨0⟩ ⟨0⟩ (.request (.change (.addMember "editors" alice.text)))]
    let target : ClassTarget := .named (some "Document")
    ∃ start connection, Store.ofClasses ⟨0⟩ ["Document"] = .ok start ∧
      (start.run events).2.connection? ⟨0⟩ = some connection ∧
      connection.view.classPrivileges ⟨0⟩ target = .ok ⟨CapabilitySet.all.clear .create⟩ ∧
      ∃ shown, connection.view.shownClass ⟨0⟩ target = .ok shown ∧
        connection.view.Tallies connection.view.principal shown.grants
          ⟨CapabilitySet.all.clear .create⟩ := by
  intro alice events target
  have hnew : Store.ofClasses ⟨0⟩ ["Document"] = .ok _ := rfl
  have hreach := (Store.Reachable.ofClasses hnew).run events
  simp only [events, Store.run_cons, Store.step_openHandle, Principal.parse_text] at hreach ⊢
  have hview := inspection_tallies.2 _ ⟨0⟩ _ hreach rfl
  refine ⟨_, _, hnew, rfl, ?_, (inspection_tallies.1 _ hview ⟨0⟩).2 target _ ?_⟩
  · decide +kernel
  · decide +kernel

end StoreAccess
