import StoreAccess.Proofs.Store.Commuting
import StoreAccess.Proofs.Store.Schema
import StoreAccess.Report.Access

/-!
# Setting up a store

What settings ask for can be read off them: the members of a role are those of all its seeds, and
of the grants to a role at one target the last counts. Setting up a store takes the seeds one by
one. Contents `Reflect` the settings of which all seeds were taken, and each seed that is taken
carries that over to the settings with this seed at their end.

Main statement: `achieves_setUp`, under which condition a store is set up, and that what is
committed then reflects the settings.
-/

namespace StoreAccess

theorem Contents.Sound.withRole {contents : Contents} (h : contents.Sound) {role : String}
    (hblank : Text.isBlank role = false) : (contents.withRole role).Sound := by
  cases hrole : contents.roles.contains role with
  | true => rwa [Contents.withRole_of_contains hrole]
  | false =>
    rw [Contents.withRole_of_not_contains hrole]
    exact h.insertRole ⟨role, .empty⟩ hblank

theorem Contents.exists_ofClasses_iff {classNames : List String} :
    (∃ contents, Contents.ofClasses classNames = .ok contents) ↔ Declarable classNames := by
  constructor
  · rintro ⟨contents, hcontents⟩
    refine (declarable_or_objection classNames).resolve_right ?_
    rintro ⟨error, hobjection⟩
    rw [Contents.ofClasses, hobjection.foldlM_eq, error_bind] at hcontents
    cases hcontents
  · intro hdeclarable
    obtain ⟨classes, hclasses, -⟩ := hdeclarable.foldlM_eq
    rw [Contents.ofClasses, hclasses]
    exact ⟨_, rfl⟩

theorem Contents.apply_addMember {contents : Contents} {role : String} {found : Role}
    (hfound : contents.roles.get? role = some found) (p : Principal) :
    (RoleChange.addMember role p.text).change.apply contents =
      (.ok .done, { contents with
        roles := contents.roles.insert role (found.insertMember p).2
        principals := contents.principals.insert p }) := by
  have hrole : contents.roles.contains role = true := SortedMap.contains_of_get? hfound
  simp [RoleChange.change, Action.apply_bind, Principal.parse_text, requireRole, hrole,
    recordPrincipal, insertMember, changeRole, hfound]

namespace Report

/-! ## What settings ask for -/

def GrantTarget.scope : GrantTarget → Scope
  | .store => .store
  | .ofClass className => .ofClass className

theorem GrantTarget.place_scope_inj {target target' : GrantTarget} :
    target.scope.place = target'.scope.place ↔ target = target' := by
  cases target <;> cases target' <;> simp [GrantTarget.scope, Scope.place]

/-- The grant that is seeded, and its scope. -/
def GrantSeed.scoped (seed : GrantSeed) : ScopedGrant :=
  ⟨seed.target.scope, seed.role, seed.capabilities⟩

/-- The seed of a role can be taken. -/
structure RoleSeed.Takeable (seed : RoleSeed) : Prop where
  named : Text.isBlank seed.role = false
  members : ∀ member ∈ seed.members, ∃ p, Principal.parse member = .ok p

/-- The grant can be taken in a store with these classes. -/
structure GrantSeed.Takeable (seed : GrantSeed) (classNames : List String) : Prop where
  named : Text.isBlank seed.role = false
  target : ∀ className, seed.target = .ofClass className → className ∈ classNames

namespace Settings

variable (settings : Settings)

/-- The members that the seeds of a role list, all seeds taken together. -/
def members (role : String) : List String :=
  (settings.roles.filter (·.role = role)).flatMap (·.members)

/-- What the last grant to a role at a target gives, if there is one. -/
def granted? (target : GrantTarget) (role : String) : Option CapabilitySet :=
  (settings.grants.reverse.find? fun seed => seed.target = target ∧ seed.role = role).map
    (·.capabilities)

/-- The roles that there are in the end: everyone, and those with a seed or a grant. -/
def Names (role : String) : Prop :=
  role = everyoneName ∨ (∃ seed ∈ settings.roles, seed.role = role) ∨
    ∃ seed ∈ settings.grants, seed.role = role

/-- The settings with one more seed of a role. -/
def addSeed (seed : RoleSeed) : Settings := { settings with roles := settings.roles ++ [seed] }

/-- The settings with one more grant. -/
def addGrant (seed : GrantSeed) : Settings := { settings with grants := settings.grants ++ [seed] }

variable {settings}

theorem members_addSeed (seed : RoleSeed) (role : String) :
    (settings.addSeed seed).members role =
      settings.members role ++ if seed.role = role then seed.members else [] := by
  by_cases h : seed.role = role <;> simp [members, addSeed, h]

theorem mem_members_iff {role member : String} :
    member ∈ settings.members role ↔
      ∃ seed ∈ settings.roles, seed.role = role ∧ member ∈ seed.members := by
  simp [members, and_assoc]

theorem names_addSeed_iff {seed : RoleSeed} {role : String} :
    (settings.addSeed seed).Names role ↔ role = seed.role ∨ settings.Names role := by
  simp only [Names, addSeed, List.mem_append, List.mem_singleton]
  grind

theorem names_addGrant_iff {seed : GrantSeed} {role : String} :
    (settings.addGrant seed).Names role ↔ role = seed.role ∨ settings.Names role := by
  simp only [Names, addGrant, List.mem_append, List.mem_singleton]
  grind

theorem granted?_addGrant (seed : GrantSeed) (target : GrantTarget) (role : String) :
    (settings.addGrant seed).granted? target role =
      if seed.target = target ∧ seed.role = role then some seed.capabilities
      else settings.granted? target role := by
  by_cases h : seed.target = target ∧ seed.role = role <;> simp [granted?, addGrant, h]

end Settings

/-! ## Contents that reflect settings -/

/-- The contents hold what the settings ask for, and no more. -/
structure Reflects (settings : Settings) (contents : Contents) : Prop where
  sound : contents.Sound
  hasClass : ∀ className, contents.hasClass className = true ↔ className ∈ settings.classes
  contains : ∀ role, contents.roles.contains role = true ↔ settings.Names role
  isRecorded : ∀ {role : String} {found : Role}, contents.roles.get? role = some found →
    ∀ p, found.isRecorded p = true ↔ p.text ∈ settings.members role
  find? : ∀ {target : GrantTarget} {l : GrantList}, contents.grantsOn? target.scope.place = some l →
    ∀ role, l.find? role = (settings.granted? target role).map (⟨role, ·⟩)

namespace Reflects

variable {settings : Settings} {contents contents' : Contents} {role : String}

/-- New contents reflect settings without seeds. -/
theorem ofClasses (h : Contents.ofClasses settings.classes = .ok contents) :
    Reflects { settings with roles := [], grants := [] } contents := by
  have hsound := Contents.sound_ofClasses h
  obtain ⟨classes, hclasses, hiff⟩ := (Contents.exists_ofClasses_iff.1 ⟨_, h⟩).foldlM_eq
  have hdeclared : Contents.Declared classes :=
    Contents.declared_foldlM (fun hkept => by cases hkept) hclasses
  rw [Contents.ofClasses, hclasses, ok_bind] at h
  obtain rfl := Except.ok.inj h
  refine ⟨hsound, hiff, fun role => ?_, fun {role found} hfound p => ?_,
    fun {target l} hl role => ?_⟩
  · rw [SortedMap.contains_insert, Bool.or_eq_true, decide_eq_true_iff]
    simp [SortedMap.contains, Settings.Names, Role.everyone]
  · rw [SortedMap.get?_insert] at hfound
    split at hfound
    · cases hfound
      simp [Role.everyone, Role.isRecorded, Settings.members]
    · cases hfound
  · have hempty : l = .empty := by
      cases target with
      | store => exact (Option.some.inj hl).symm
      | ofClass className =>
        obtain ⟨kept, hkept, rfl⟩ := Option.map_eq_some_iff.1 hl
        rw [(hdeclared hkept).1]
    rw [hempty]
    rfl

theorem not_mem_members (h : Reflects settings contents)
    (hnone : contents.roles.get? role = none) (member : String) :
    member ∉ settings.members role := by
  intro hmem
  obtain ⟨seed, hseed, hrole, -⟩ := Settings.mem_members_iff.1 hmem
  have hcontains := (h.contains role).2 (.inr (.inl ⟨seed, hseed, hrole⟩))
  rw [SortedMap.contains, hnone] at hcontains
  cases hcontains

/-- A role that is new has no members, and no seed lists any. -/
theorem isRecorded_withRole (h : Reflects settings contents) {other : String} {found : Role}
    (hfound : (contents.withRole role).roles.get? other = some found) (p : Principal) :
    found.isRecorded p = true ↔ p.text ∈ settings.members other := by
  rw [Contents.get?_roles_withRole] at hfound
  split at hfound
  · next heq =>
    subst heq
    cases hother : contents.roles.get? other with
    | some found' =>
      rw [hother, Option.getD_some] at hfound
      exact Option.some.inj hfound ▸ h.isRecorded hother p
    | none =>
      rw [hother, Option.getD_none] at hfound
      cases hfound
      simpa [Role.isRecorded] using h.not_mem_members hother p.text
  · exact h.isRecorded hfound p

theorem withRole (h : Reflects settings contents) (hblank : Text.isBlank role = false) :
    Reflects (settings.addSeed ⟨role, []⟩) (contents.withRole role) := by
  refine ⟨h.sound.withRole hblank, h.hasClass, fun other => ?_, fun {other found} hfound p => ?_,
    fun {target l} hl other => ?_⟩
  · rw [Contents.contains_roles_withRole, Bool.or_eq_true, decide_eq_true_iff, h.contains,
      Settings.names_addSeed_iff]
  · rw [h.isRecorded_withRole hfound, Settings.members_addSeed, ite_self, List.append_nil]
  · exact h.find? (by cases target <;> exact hl) other

theorem insertMember {members : List String}
    (h : Reflects (settings.addSeed ⟨role, members⟩) contents) {found : Role}
    (hfound : contents.roles.get? role = some found) (p : Principal) :
    Reflects (settings.addSeed ⟨role, members ++ [p.text]⟩)
      { contents with
        roles := contents.roles.insert role (found.insertMember p).2
        principals := contents.principals.insert p } := by
  obtain ⟨hname, hblank⟩ := h.sound.role_filed hfound
  refine ⟨?_, h.hasClass, fun other => ?_, fun {other found'} hfound' q => ?_, h.find?⟩
  · have hsound := h.sound.insertRole (found.insertMember p).2 (hname ▸ hblank)
    rw [Role.name_insertMember, hname] at hsound
    exact hsound.recordPrincipal p
  · have hcontains := h.contains other
    rw [Settings.names_addSeed_iff] at hcontains ⊢
    rw [← hcontains, SortedMap.contains_insert_of_get? hfound]
  · rw [SortedMap.get?_insert] at hfound'
    split at hfound'
    · next heq =>
      subst heq
      cases hfound'
      have hbefore := h.isRecorded hfound q
      rw [Settings.members_addSeed, if_pos rfl, List.mem_append] at hbefore ⊢
      rw [Role.isRecorded_insertMember, Bool.or_eq_true, decide_eq_true_iff, hbefore,
        List.mem_append, List.mem_singleton, ← Principal.ext_iff, or_comm, or_assoc]
    · next hne =>
      have hbefore := h.isRecorded hfound' q
      rw [Settings.members_addSeed] at hbefore ⊢
      simpa [Ne.symm hne] using hbefore

theorem grant (h : Reflects settings contents) {seed : GrantSeed}
    (hreceives : contents.Receives seed.scoped contents') (hsound : contents'.Sound) :
    Reflects (settings.addGrant seed) contents' := by
  have hseed : seed.scoped.grant.role = seed.role := rfl
  refine ⟨hsound, fun className => ?_, fun role => ?_, fun {role found} hfound p => ?_,
    fun {target l} hl role => ?_⟩
  · have hclasses := h.hasClass className
    rw [Contents.hasClass_eq_isSome] at hclasses ⊢
    rw [hreceives.isSome_grantsOn?, hclasses]
    rfl
  · rw [hreceives.roles, hseed, Contents.contains_roles_withRole, Bool.or_eq_true,
      decide_eq_true_iff, h.contains, Settings.names_addGrant_iff]
  · rw [hreceives.roles] at hfound
    exact h.isRecorded_withRole hfound p
  · rw [hreceives.grantsOn?] at hl
    have hplace : seed.scoped.scope = seed.target.scope := rfl
    rw [hplace] at hl
    rw [Settings.granted?_addGrant]
    split at hl
    · next heq =>
      obtain rfl := GrantTarget.place_scope_inj.1 heq
      obtain ⟨before, hbefore, rfl⟩ := Option.map_eq_some_iff.1 hl
      rw [GrantList.find?_grant, h.find? hbefore, hseed]
      by_cases hrole : role = seed.role
      · simp [hrole, GrantSeed.scoped]
      · simp [hrole, Ne.symm hrole]
    · next hne =>
      rw [h.find? hl, if_neg fun (heq : seed.target = target ∧ _) => hne (heq.1 ▸ rfl)]

end Reflects

/-! ## Taking the seeds one by one -/

section Seeds

variable {caller : Thread} {connection : Connection} {settings : Settings} {contents : Contents}

/-- The connection is in its transaction, and what that works on reflects the settings. -/
def SeededFrom (connection : Connection) (settings : Settings) (seeded : Connection) : Prop :=
  ∃ contents, seeded = connection.withPending contents ∧ Reflects settings contents

theorem lookUpRole_eq (h : connection.Writes caller contents) (role : String) :
    connection.view.lookUpRole caller role =
      match contents.roles.get? role with
      | some found => .ok found
      | none => .error (.missingRole role) := by
  have husable : connection.view.requireUsable caller = .ok () := h.usable
  rw [AccessView.lookUpRole, husable, ok_bind, AccessView.requireRole, Connection.findRole_eq h]
  cases contents.roles.get? role <;> rfl

theorem apply_seedRole_of_contains (h : connection.Writes caller contents) {role : String}
    (hrole : contents.roles.contains role = true) :
    (seedRole caller role).apply connection = (.ok ⟨⟩, connection) := by
  obtain ⟨found, hfound⟩ := Option.isSome_iff_exists.1 hrole
  unfold seedRole
  split
  · rfl
  · simp [Action.apply_bind, lookUpRole_eq h, hfound]

/-- A role that is not there is created by its name. -/
theorem apply_seedRole_of_not_contains (h : connection.Writes caller contents)
    (hsound : contents.Sound) {role : String} (hrole : contents.roles.contains role = false) :
    (seedRole caller role).apply connection =
      if Text.isBlank role then (.error .blankName, connection)
      else (.ok ⟨⟩, connection.withPending (contents.withRole role)) := by
  have hname : namesEveryone role = false := by
    rw [Bool.eq_false_iff, ne_eq, GrantSource.namesEveryone_iff]
    rintro rfl
    rw [hsound.everyone] at hrole
    cases hrole
  have hnone : contents.roles.get? role = none := by simpa [SortedMap.contains] using hrole
  have hlook : connection.view.lookUpRole caller role = .error (.missingRole role) := by
    rw [lookUpRole_eq h, hnone]
  have hadd := Connection.performs_addRole h role
  unfold Connection.Performs at hadd
  cases hblank : Text.isBlank role with
  | true =>
    have hofName : Role.ofName role = .error .blankName := by
      rw [Role.ofName, requireName_of_blank hblank, error_bind]
    rw [hofName] at hadd
    simp [seedRole, hname, Action.apply_bind, hlook, AccessError.missingRole, hadd,
      h.withPending_eq]
  | false =>
    have hofName : Role.ofName role = .ok ⟨role, .empty⟩ := Role.ofName_eq_ok_iff.2 ⟨rfl, hblank⟩
    rw [hofName] at hadd
    simp [seedRole, hname, Action.apply_bind, hlook, AccessError.missingRole, hadd,
      Contents.fileRole, hrole, Contents.withRole_of_not_contains hrole]

theorem achieves_seedRole (h : connection.Writes caller contents)
    (hreflects : Reflects settings contents) (role : String) :
    (seedRole caller role).Achieves connection (Text.isBlank role = false)
      (SeededFrom connection (settings.addSeed ⟨role, []⟩)) := by
  cases hrole : contents.roles.contains role with
  | true =>
    have hrun := apply_seedRole_of_contains h hrole
    obtain ⟨found, hfound⟩ := Option.isSome_iff_exists.1 hrole
    have hblank := (hreflects.sound.role_filed hfound).2
    refine ⟨fun _ => ⟨connection, hrun, contents.withRole role, ?_, hreflects.withRole hblank⟩,
      fun h => absurd hblank h⟩
    rw [Contents.withRole_of_contains hrole, h.withPending_eq]
  | false =>
    have hrun := apply_seedRole_of_not_contains h hreflects.sound hrole
    constructor
    · intro hblank
      rw [hblank, if_neg Bool.false_ne_true] at hrun
      exact ⟨_, hrun, contents.withRole role, rfl, hreflects.withRole hblank⟩
    · intro hblank
      rw [if_pos (by simpa using hblank)] at hrun
      exact ⟨_, _, hrun⟩

theorem achieves_addMember (h : connection.Writes caller contents) {role : String}
    {members : List String} (hreflects : Reflects (settings.addSeed ⟨role, members⟩) contents)
    (member : String) :
    ((Connection.backend caller).addMember caller role member).Achieves connection
      (∃ p, Principal.parse member = .ok p)
      (SeededFrom connection (settings.addSeed ⟨role, members ++ [member]⟩)) := by
  have hcontains := (hreflects.contains role).2 (Settings.names_addSeed_iff.2 (.inl rfl))
  obtain ⟨found, hfound⟩ := Option.isSome_iff_exists.1 hcontains
  have hadd := Connection.performs_addMember h role member
  unfold Connection.Performs at hadd
  refine Action.achieves_of_return (b := Reply.done) ?_ ?_
  · rintro ⟨p, hparse⟩
    obtain rfl := Principal.parse_eq_ok_iff.1 hparse
    rw [Contents.apply_addMember hfound] at hadd
    exact ⟨_, hadd, _, rfl, hreflects.insertMember hfound p⟩
  · intro hparse
    cases hmember : Principal.parse member with
    | ok p => exact absurd ⟨p, hmember⟩ hparse
    | error error =>
      rw [RoleChange.change, hmember] at hadd
      exact ⟨_, _, hadd⟩

/-- The grant of a seed is made as any grant is. -/
theorem perform_scoped (caller : Thread) (seed : GrantSeed) :
    Connection.perform caller seed.scoped.call =
      (do seedGrant caller seed; return .done) := by
  obtain ⟨target, role, capabilities⟩ := seed
  cases target <;> rfl

theorem takes_scoped_iff (hreflects : Reflects settings contents) (id : StoreId)
    (seed : GrantSeed) : contents.Takes id seed.scoped ↔ seed.Takeable settings.classes := by
  obtain ⟨target, role, capabilities⟩ := seed
  constructor
  · rintro ⟨hnamed, -, hplaced⟩
    refine ⟨hnamed, ?_⟩
    rintro className rfl
    rw [← hreflects.hasClass, Contents.hasClass_eq_isSome]
    exact hplaced
  · rintro ⟨hnamed, htarget⟩
    cases target with
    | store => exact ⟨hnamed, trivial, rfl⟩
    | ofClass className =>
      refine ⟨hnamed, trivial, ?_⟩
      have hclass := (hreflects.hasClass className).2 (htarget className rfl)
      rwa [Contents.hasClass_eq_isSome] at hclass

theorem achieves_seedGrant (h : connection.Writes caller contents)
    (hreflects : Reflects settings contents) (seed : GrantSeed) :
    (seedGrant caller seed).Achieves connection (seed.Takeable settings.classes)
      (SeededFrom connection (settings.addGrant seed)) := by
  have htakeable := takes_scoped_iff hreflects connection.storeId seed
  refine Action.achieves_of_return (b := Reply.done) (fun hseed => ?_) fun hseed => ?_
  · obtain ⟨change, contents', hcall, hrun⟩ := (htakeable.2 hseed).applies
    have hperform := Connection.apply_write h hcall hrun
    rw [perform_scoped] at hperform
    have hreceives := (Contents.effect_of_call hcall hrun).receives.2
    have hsound := (Contents.edits_of_call hcall hrun).sound hreflects.sound
    exact ⟨_, hperform, contents', rfl, hreflects.grant hreceives hsound⟩
  · obtain ⟨change, hcall⟩ := seed.scoped.change?_call connection.storeId
    rcases hrun : change.apply contents with ⟨error | reply, contents'⟩
    · have hperform := Connection.apply_write h hcall hrun
      rw [perform_scoped] at hperform
      exact ⟨error, _, hperform⟩
    · exact absurd (htakeable.1 (Contents.takes_of_apply hcall hrun)) hseed

theorem achieves_seedMembers (h : connection.Writes caller contents)
    (hreflects : Reflects settings contents) (seed : RoleSeed) :
    (seedMembers caller seed).Achieves connection seed.Takeable
      (SeededFrom connection (settings.addSeed seed)) := by
  have hseeded : (seedMembers caller seed).Achieves connection
      (Text.isBlank seed.role = false ∧
        ∀ member ∈ seed.members, ∃ p, Principal.parse member = .ok p)
      (SeededFrom connection (settings.addSeed seed)) := by
    refine (achieves_seedRole h hreflects seed.role).bind fun _ hstart => ?_
    refine Action.achieves_forM
      (fun done => SeededFrom connection (settings.addSeed ⟨seed.role, done⟩)) ?_ hstart
      seed.members
    rintro done member _ ⟨contents', rfl, hreflects'⟩
    exact achieves_addMember (h.withPending contents') hreflects' member
  exact hseeded.imp ⟨fun ⟨hrole, hmembers⟩ => ⟨hrole, hmembers⟩,
    fun ⟨hrole, hmembers⟩ => ⟨hrole, hmembers⟩⟩ fun _ hafter => hafter

/-! ## The transaction -/

/-- The transaction that the connection then has publishes contents that reflect the settings. -/
def SetUpFrom (connection : Connection) (settings : Settings) (connection' : Connection) : Prop :=
  ∃ contents, connection' = connection.acquire.publish contents ∧ Reflects settings contents

theorem achieves_begin (husable : connection.requireUsable caller = .ok ())
    (hpending : connection.handle.pending = none) (hfree : connection.shared.writing = false) :
    (Connection.begin caller).Achieves connection True (· = connection.acquire) := by
  have hbegin := Connection.apply_begin husable hpending hfree
  exact Action.achieves_of_return (fun _ => ⟨_, hbegin, rfl⟩) fun h => absurd trivial h

theorem achieves_commit (h : connection.Writes caller contents) :
    (Connection.commit caller).Achieves connection True (· = connection.publish contents) := by
  have hcommit := Connection.apply_commit h
  exact Action.achieves_of_return (fun _ => ⟨_, hcommit, rfl⟩) fun h => absurd trivial h

/-- After each turn the contents reflect the settings with the seeds that were taken so far. -/
theorem achieves_seedRoles (h : connection.Writes caller contents) {seeded : Connection}
    (hseeded : SeededFrom connection { settings with roles := [], grants := [] } seeded) :
    (settings.roles.forM (seedMembers caller)).Achieves seeded
      (∀ seed ∈ settings.roles, seed.Takeable)
      (SeededFrom connection { settings with grants := [] }) := by
  refine Action.achieves_forM
    (fun done => SeededFrom connection { settings with roles := done, grants := [] }) ?_ hseeded _
  rintro done seed _ ⟨contents', rfl, hreflects⟩
  exact achieves_seedMembers (h.withPending contents') hreflects seed

theorem achieves_seedGrants (h : connection.Writes caller contents) {seeded : Connection}
    (hseeded : SeededFrom connection { settings with grants := [] } seeded) :
    (settings.grants.forM (seedGrant caller)).Achieves seeded
      (∀ seed ∈ settings.grants, seed.Takeable settings.classes)
      (SeededFrom connection settings) := by
  refine Action.achieves_forM
    (fun done => SeededFrom connection { settings with grants := done }) ?_ hseeded _
  rintro done seed _ ⟨contents', rfl, hreflects⟩
  exact achieves_seedGrant (h.withPending contents') hreflects seed

/-- **Setting up a store** succeeds just if every seed can be taken. Then the contents that are
committed reflect the settings. -/
theorem achieves_setUp (husable : connection.requireUsable caller = .ok ())
    (hpending : connection.handle.pending = none) (hfree : connection.shared.writing = false)
    (hreflects : Reflects { settings with roles := [], grants := [] } connection.shared.committed) :
    (setUp caller settings).Achieves connection
      ((∀ seed ∈ settings.roles, seed.Takeable) ∧
        ∀ seed ∈ settings.grants, seed.Takeable settings.classes)
      (SetUpFrom connection settings) := by
  have hwrites : connection.acquire.Writes caller connection.shared.committed := ⟨husable, rfl⟩
  have hstart : SeededFrom connection.acquire { settings with roles := [], grants := [] }
      connection.acquire := ⟨_, hwrites.withPending_eq.symm, hreflects⟩
  have hcommit : ∀ seeded, SeededFrom connection.acquire settings seeded →
      (Connection.commit caller).Achieves seeded True (SetUpFrom connection settings) := by
    rintro _ ⟨contents, rfl, hreflects⟩
    exact (achieves_commit (hwrites.withPending contents)).imp Iff.rfl
      fun _ heq => ⟨contents, heq, hreflects⟩
  have hsetUp : (setUp caller settings).Achieves connection
      (True ∧ (∀ seed ∈ settings.roles, seed.Takeable) ∧
        (∀ seed ∈ settings.grants, seed.Takeable settings.classes) ∧ True)
      (SetUpFrom connection settings) := by
    refine (achieves_begin husable hpending hfree).bind ?_
    rintro _ rfl
    exact (achieves_seedRoles hwrites hstart).bind fun seeded hseeded =>
      (achieves_seedGrants hwrites hseeded).bind hcommit
  exact hsetUp.imp (by simp) fun _ hafter => hafter

end Seeds

end Report

end StoreAccess
