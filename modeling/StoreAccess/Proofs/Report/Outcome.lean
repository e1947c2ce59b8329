import Mathlib.Data.List.Dedup
import StoreAccess.Proofs.Report.Grammar
import StoreAccess.Proofs.Report.SetUp

/-!
# What a report tells

A report can be made of settings that are `Acceptable`, and what it tells then can be read off the
settings, without a store: `Access.Reports`.

Main statement: `Access.ofSettings_exact`.
-/

namespace StoreAccess.Report

/-! ## What settings allow -/

namespace Settings

/-- What the settings let their principal do at a target: what the last grant there to a role gives
that includes the principal, and what the template gives if no grant there is to everyone. -/
def Allows (settings : Settings) (target : GrantTarget) (c : Capability) : Prop :=
  (∃ role capabilities, settings.granted? target role = some capabilities ∧
      capabilities.allows c = true ∧
      (role = everyoneName ∨ settings.principal ∈ settings.members role)) ∨
    (∀ seed ∈ settings.grants, seed.target = target → seed.role ≠ everyoneName) ∧
      (Policy.template target.scope.kind).allows c = true

/-- A store can be set up as the settings say, and a report on it be made. -/
structure Acceptable (settings : Settings) : Prop where
  classes : settings.classes.Nodup
  principal : ∃ p, Principal.parse settings.principal = .ok p
  members : ∀ seed ∈ settings.roles, ∀ member ∈ seed.members, ∃ p, Principal.parse member = .ok p
  roles : ∀ seed ∈ settings.roles, seed.role ≠ ""
  grants : ∀ seed ∈ settings.grants, seed.role ≠ ""
  targets : ∀ seed ∈ settings.grants, ∀ className, seed.target = .ofClass className →
    className ∈ settings.classes

theorem granted?_eq_none_iff {settings : Settings} {target : GrantTarget} {role : String} :
    settings.granted? target role = none ↔
      ∀ seed ∈ settings.grants, seed.target = target → seed.role ≠ role := by
  simp [granted?]

end Settings

/-- The report tells what the settings ask for. -/
structure Access.Reports (access : Access) (id : StoreId) (settings : Settings) : Prop where
  storeId : access.storeId = id
  principal : access.principal = settings.principal
  store : ∀ c, access.store.allows c = true ↔ settings.Allows .store c
  classes : ∀ className, access.classes.contains className = true ↔ className ∈ settings.classes
  ofClass : ∀ {className : String} {v : Privileges}, access.classes.get? className = some v →
    ∀ c, v.allows c = true ↔ settings.Allows (.ofClass className) c
  /-- Every role has one line, and the lines are in the order of the names. -/
  ascending : (access.roles.map (·.name)).Pairwise (· < ·)
  names : ∀ role, role ∈ access.roles.map (·.name) ↔ settings.Names role
  memberCount : ∀ line ∈ access.roles,
    line.memberCount = (settings.members line.name).dedup.length
  includesPrincipal : ∀ line ∈ access.roles, line.includesPrincipal = true ↔
    line.name = everyoneName ∨ settings.principal ∈ settings.members line.name

/-! ## Reading contents that reflect settings -/

namespace Reflects

variable {settings : Settings} {contents : Contents} {role : String} {found : Role}
  {p : Principal}

theorem hasMember_iff (h : Reflects settings contents)
    (hfound : contents.roles.get? role = some found) (p : Principal) :
    found.hasMember p = true ↔ role = everyoneName ∨ p.text ∈ settings.members role := by
  rw [Role.hasMember, Bool.or_eq_true, h.isRecorded hfound, Role.isEveryone,
    GrantSource.namesEveryone_iff, (h.sound.role_filed hfound).1]

theorem includes_iff (h : Reflects settings contents) (p : Principal) (role : String) :
    contents.source.Includes p role ↔ role = everyoneName ∨ p.text ∈ settings.members role := by
  constructor
  · rintro (heveryone | ⟨found, hfound, hmember⟩)
    · exact .inl heveryone
    · exact (h.hasMember_iff (Except.ok.inj hfound) p).1 hmember
  · rintro (heveryone | hmember)
    · exact .inl heveryone
    · cases hfound : contents.roles.get? role with
      | none => exact absurd hmember (h.not_mem_members hfound p.text)
      | some found =>
        have hread : contents.source.findRole role = .ok (some found) := congrArg Except.ok hfound
        exact .inr ⟨found, hread, (h.hasMember_iff hfound p).2 (.inr hmember)⟩

/-- Members are counted once, whichever seeds list them and how often. -/
theorem memberCount_eq (h : Reflects settings contents)
    (hfound : contents.roles.get? role = some found)
    (hparses : ∀ member ∈ settings.members role, ∃ p, Principal.parse member = .ok p) :
    found.memberCount = (settings.members role).dedup.length := by
  have hnodup : (found.members.toList.map Principal.text).Nodup := by
    refine List.Nodup.map (fun p q => Principal.ext) ?_
    refine found.members.toList_ascending.imp fun {p q} hlt heq => ?_
    have hself : compare q q = .eq := Std.ReflCmp.compare_self
    rw [heq, hself] at hlt
    cases hlt
  have hmem : ∀ member, member ∈ found.members.toList.map Principal.text ↔
      member ∈ (settings.members role).dedup := by
    intro member
    rw [List.mem_dedup, List.mem_map]
    constructor
    · rintro ⟨p, hp, rfl⟩
      exact (h.isRecorded hfound p).1 (SortedSet.mem_toList_iff.1 hp)
    · intro hmember
      obtain ⟨p, hparse⟩ := hparses member hmember
      obtain rfl := Principal.parse_eq_ok_iff.1 hparse
      exact ⟨p, SortedSet.mem_toList_iff.2 ((h.isRecorded hfound p).2 hmember), rfl⟩
  have hperm := (List.perm_ext_iff_of_nodup hnodup (List.nodup_dedup _)).2 hmem
  rw [← hperm.length_eq, List.length_map]
  rfl

theorem candidates (h : Reflects settings contents) {target : GrantTarget}
    (htarget : ∀ className, target = .ofClass className → className ∈ settings.classes) :
    ∃ l, contents.grantsOn? target.scope.place = some l ∧
      contents.source.Candidates target.scope l := by
  cases target with
  | store => exact ⟨contents.realm.grants, rfl, .store rfl⟩
  | ofClass className =>
    have hclass := (h.hasClass className).2 (htarget className rfl)
    obtain ⟨kept, hkept⟩ := Option.isSome_iff_exists.1 hclass
    have hread : contents.source.classGrants className = .ok (some kept) := congrArg Except.ok hkept
    refine ⟨kept.grants, by rw [GrantTarget.scope, Scope.place, Contents.grantsOn?, hkept]; rfl,
      .ofClass ⟨(h.sound.class_filed hkept).2, congrArg Except.ok hclass⟩ hread⟩

theorem privileges (h : Reflects settings contents) (target : GrantTarget)
    (htarget : ∀ className, target = .ofClass className → className ∈ settings.classes)
    (hp : p.text = settings.principal) :
    ∃ v, contents.source.privileges p target.scope = .ok v ∧
      ∀ c, v.allows c = true ↔ settings.Allows target c := by
  obtain ⟨l, hl, hcandidates⟩ := h.candidates htarget
  obtain ⟨v, hv, hallows⟩ := GrantSource.privileges_eq_ok hcandidates
    (fun g _ => Contents.roleRead_source contents g.role) p
  refine ⟨v, hv, fun c => ?_⟩
  have hdistinct := h.sound.distinct hl
  have heveryone : everyoneName ∉ l.roles ↔
      ∀ seed ∈ settings.grants, seed.target = target → seed.role ≠ everyoneName := by
    rw [← GrantList.find?_eq_none_iff, h.find? hl, Option.map_eq_none_iff,
      Settings.granted?_eq_none_iff]
  rw [hallows, heveryone, Settings.Allows]
  refine or_congr_left ⟨?_, ?_⟩
  · rintro ⟨⟨role, capabilities⟩, hg, hc, hin⟩
    rw [hdistinct.mem_entries_iff, h.find? hl] at hg
    obtain ⟨_, hgranted, ⟨⟩⟩ := Option.map_eq_some_iff.1 hg
    refine ⟨role, capabilities, hgranted, hc, ?_⟩
    rwa [← hp, ← h.includes_iff]
  · rintro ⟨role, capabilities, hgranted, hc, hin⟩
    refine ⟨⟨role, capabilities⟩, ?_, hc, ?_⟩
    · rw [hdistinct.mem_entries_iff, h.find? hl, hgranted]
      rfl
    · rwa [h.includes_iff, hp]

end Reflects

/-! ## Telling -/

section Tell

variable {settings : Settings} {connection : Connection} {caller : Thread}

/-- The report is asked for by the principal of the settings through a usable handle that sees
contents that reflect the settings. -/
structure Telling (settings : Settings) (caller : Thread) (connection : Connection) : Prop where
  usable : connection.view.requireUsable caller = .ok ()
  principal : connection.handle.principal.text = settings.principal
  reflects : Reflects settings connection.visible
  takeable : ∀ seed ∈ settings.roles, seed.Takeable

/-- The line of a role in a report to a principal. -/
def lineOf (p : Principal) (role : Role) : RoleLine :=
  ⟨role.name, role.memberCount, role.hasMember p⟩

namespace Telling

theorem storePrivileges (h : Telling settings caller connection) :
    ∃ v, connection.view.storePrivileges caller = .ok v ∧
      ∀ c, v.allows c = true ↔ settings.Allows .store c := by
  obtain ⟨v, hv, hallows⟩ := h.reflects.privileges .store (by simp) h.principal
  refine ⟨v, ?_, hallows⟩
  rw [AccessView.storePrivileges, h.usable, ok_bind]
  exact hv

theorem classPrivileges (h : Telling settings caller connection) {className : String}
    (hclass : className ∈ settings.classes) :
    ∃ v, connection.view.classPrivileges caller (.named (some className)) = .ok v ∧
      ∀ c, v.allows c = true ↔ settings.Allows (.ofClass className) c := by
  obtain ⟨v, hv, hallows⟩ := h.reflects.privileges (.ofClass className)
    (by simpa using hclass) h.principal
  have hknown := (h.reflects.hasClass className).2 hclass
  obtain ⟨kept, hkept⟩ := Option.isSome_iff_exists.1 hknown
  have hblank := (h.reflects.sound.class_filed hkept).2
  have hread : connection.view.hasClass className = .ok true := congrArg Except.ok hknown
  have hrequire : connection.view.requireClass (some className) = .ok className := by
    simp [AccessView.requireClass, Option.filter, hblank, hread]
  refine ⟨v, ?_, hallows⟩
  rw [AccessView.classPrivileges, h.usable, ok_bind, ClassTarget.className?, hrequire, ok_bind]
  exact hv

theorem get?_of_mem_values (h : Telling settings caller connection) {role : Role}
    (hrole : role ∈ connection.visible.roles.values) :
    connection.visible.roles.get? role.name = some role :=
  h.reflects.sound.mem_values_roles_iff.1 hrole

theorem roleLine_eq (h : Telling settings caller connection) {role : Role}
    (hrole : role ∈ connection.visible.roles.values) :
    roleLine connection.view caller settings.principal role =
      .ok (lineOf connection.handle.principal role) := by
  have hread : connection.view.findRole role.name = .ok (some role) :=
    congrArg Except.ok (h.get?_of_mem_values hrole)
  rw [roleLine, AccessView.hasMember, h.usable, ← h.principal, Principal.parse_text]
  simp [AccessView.requireRole, hread, lineOf]

theorem names_lines (h : Telling settings caller connection) (p : Principal) :
    (connection.visible.roles.values.map (lineOf p)).map (·.name) =
      connection.visible.roles.keys := by
  rw [List.map_map, ← h.reflects.sound.names_roles]
  rfl

theorem memberCount_eq (h : Telling settings caller connection) {role : Role}
    (hrole : role ∈ connection.visible.roles.values) :
    role.memberCount = (settings.members role.name).dedup.length := by
  refine h.reflects.memberCount_eq (h.get?_of_mem_values hrole) fun member hmember => ?_
  obtain ⟨seed, hseed, -, hmember⟩ := Settings.mem_members_iff.1 hmember
  exact (h.takeable seed hseed).members member hmember

/-- The classes are told one after the other. -/
theorem foldlM_addClass {view : AccessView} {classNames : List String}
    (h : ∀ className ∈ classNames,
      ∃ v, view.classPrivileges caller (.named (some className)) = .ok v)
    (told : SortedMap String Privileges) :
    ∃ classes, classNames.foldlM (addClass view caller) told = .ok classes ∧
      ∀ className v, classes.get? className = some v ↔
        className ∈ classNames ∧ view.classPrivileges caller (.named (some className)) = .ok v ∨
          className ∉ classNames ∧ told.get? className = some v := by
  induction classNames generalizing told with
  | nil => exact ⟨told, rfl, by simp⟩
  | cons className classNames ih =>
    obtain ⟨⟨v, hv⟩, hrest⟩ := List.forall_mem_cons.1 h
    obtain ⟨classes, hclasses, hget⟩ := ih hrest (told.insert className v)
    refine ⟨classes, ?_, fun other w => ?_⟩
    · rw [List.foldlM_cons, addClass, hv]
      exact hclasses
    · rw [hget, SortedMap.get?_insert]
      by_cases hother : other = className
      · subst hother
        by_cases hmem : other ∈ classNames <;> simp [hmem, hv]
      · simp [hother]

theorem tell_eq_ok (h : Telling settings caller connection) :
    ∃ access, tell connection.view caller settings = .ok access ∧
      access.Reports connection.storeId settings := by
  obtain ⟨classes, hclasses, hget⟩ := foldlM_addClass
    (fun className hclass => (h.classPrivileges hclass).imp fun v hv => hv.1) .empty
  obtain ⟨v, hv, hallows⟩ := h.storePrivileges
  have hroles : connection.view.shownRoles caller = .ok connection.visible.roles.values := by
    rw [AccessView.shownRoles, h.usable, ok_bind]
    rfl
  have hlines := mapM_eq_ok_map fun (role : Role) hrole => h.roleLine_eq hrole
  refine ⟨_, by rw [tell, hclasses, ok_bind, hroles, ok_bind, hlines, ok_bind, hv, ok_bind]; rfl,
    rfl, rfl, hallows, fun className => ?_, fun {className v'} hv' => ?_, ?_, fun role => ?_,
    fun line hline => ?_, fun line hline => ?_⟩
  · rw [SortedMap.contains, Option.isSome_iff_exists]
    constructor
    · rintro ⟨v', hv'⟩
      exact ((hget className v').1 hv').elim (·.1) fun hnone => by cases hnone.2
    · intro hclass
      obtain ⟨v', hv', -⟩ := h.classPrivileges hclass
      exact ⟨v', (hget className v').2 (.inl ⟨hclass, hv'⟩)⟩
  · rcases (hget className v').1 hv' with ⟨hclass, hv'⟩ | ⟨-, hnone⟩
    · obtain ⟨w, hw, hallows'⟩ := h.classPrivileges hclass
      rw [hv'] at hw
      cases hw
      exact hallows'
    · cases hnone
  · rw [h.names_lines]
    exact SortedMap.keys_lt _
  · rw [h.names_lines, SortedMap.mem_keys_iff, h.reflects.contains]
  · obtain ⟨role, hrole, rfl⟩ := List.mem_map.1 hline
    exact h.memberCount_eq hrole
  · obtain ⟨role, hrole, rfl⟩ := List.mem_map.1 hline
    rw [lineOf, h.reflects.hasMember_iff (h.get?_of_mem_values hrole), h.principal]

end Telling

end Tell

/-! ## Making the report -/

section Outcome

variable {settings : Settings} {access access' : Access} {id : StoreId} {caller : Thread}

theorem Settings.WellFormed.acceptable_iff (h : settings.WellFormed) :
    settings.Acceptable ↔ Contents.Declarable settings.classes ∧
      (∃ p, Principal.parse settings.principal = .ok p) ∧
      (∀ seed ∈ settings.roles, seed.Takeable) ∧
      ∀ seed ∈ settings.grants, seed.Takeable settings.classes := by
  have hclass : ∀ className ∈ settings.classes, Text.isBlank className = false :=
    fun className hclass => (h.classes className hclass).2.isTrimmed.isBlank_eq_false_iff.2
      (h.classes className hclass).1
  have hrole : ∀ seed ∈ settings.roles, Text.isBlank seed.role = false ↔ seed.role ≠ "" :=
    fun seed hseed => (h.roles seed hseed).role.isTrimmed.isBlank_eq_false_iff
  have hgrant : ∀ seed ∈ settings.grants, Text.isBlank seed.role = false ↔ seed.role ≠ "" :=
    fun seed hseed => (h.grants seed hseed).role.isTrimmed.isBlank_eq_false_iff
  constructor
  · rintro ⟨hclasses, hprincipal, hmembers, hroles, hgrants, htargets⟩
    exact ⟨⟨hclass, hclasses⟩, hprincipal,
      fun seed hseed => ⟨(hrole seed hseed).2 (hroles seed hseed), hmembers seed hseed⟩,
      fun seed hseed => ⟨(hgrant seed hseed).2 (hgrants seed hseed), htargets seed hseed⟩⟩
  · rintro ⟨hclasses, hprincipal, hroles, hgrants⟩
    exact ⟨hclasses.nodup, hprincipal, fun seed hseed => (hroles seed hseed).members,
      fun seed hseed => (hrole seed hseed).1 (hroles seed hseed).named,
      fun seed hseed => (hgrant seed hseed).1 (hgrants seed hseed).named,
      fun seed hseed => (hgrants seed hseed).target⟩

/-- The handle that a report is made through, as it is opened. -/
def opened (caller : Thread) (id : StoreId) (contents : Contents) (p : Principal) : Connection :=
  ⟨id, { committed := contents, writing := false }, .ofPrincipal p caller⟩

theorem ofSettings_eq {contents : Contents} {p : Principal}
    (hcontents : Contents.ofClasses settings.classes = .ok contents)
    (hprincipal : Principal.parse settings.principal = .ok p) :
    Access.ofSettings caller id settings =
      match (setUp caller settings).apply (opened caller id contents p) with
      | (.error error, _) => .error error
      | (.ok _, connection) => tell connection.view caller settings := by
  rw [Access.ofSettings, hcontents, ok_bind, hprincipal, ok_bind]
  rfl

theorem achieves_setUp_opened {contents : Contents}
    (hcontents : Contents.ofClasses settings.classes = .ok contents) (p : Principal) :
    (setUp caller settings).Achieves (opened caller id contents p)
      ((∀ seed ∈ settings.roles, seed.Takeable) ∧
        ∀ seed ∈ settings.grants, seed.Takeable settings.classes)
      (SetUpFrom (opened caller id contents p) settings) :=
  achieves_setUp (Connection.requireUsable_eq_ok_iff.2 ⟨rfl, rfl⟩) rfl rfl
    (Reflects.ofClasses hcontents)

theorem ofSettings_eq_ok (h : settings.WellFormed) (hacceptable : settings.Acceptable)
    (caller : Thread) (id : StoreId) :
    ∃ access, Access.ofSettings caller id settings = .ok access ∧ access.Reports id settings := by
  obtain ⟨hclasses, ⟨p, hprincipal⟩, hseeds⟩ := h.acceptable_iff.1 hacceptable
  obtain ⟨contents, hcontents⟩ := Contents.exists_ofClasses_iff.2 hclasses
  obtain ⟨_, hsetUp, contents', rfl, hreflects⟩ :=
    (achieves_setUp_opened hcontents p).succeeds hseeds
  rw [ofSettings_eq hcontents hprincipal, hsetUp]
  refine Telling.tell_eq_ok ⟨?_, (Principal.parse_eq_ok_iff.1 hprincipal).symm, hreflects, hseeds.1⟩
  exact Connection.requireUsable_eq_ok_iff.2 ⟨rfl, rfl⟩

theorem acceptable_of_ofSettings (h : settings.WellFormed)
    (hofSettings : Access.ofSettings caller id settings = .ok access) : settings.Acceptable := by
  obtain ⟨contents, hcontents, hrest⟩ := bind_eq_ok_iff.1 hofSettings
  obtain ⟨p, hprincipal, -⟩ := bind_eq_ok_iff.1 hrest
  refine h.acceptable_iff.2 ⟨Contents.exists_ofClasses_iff.1 ⟨contents, hcontents⟩,
    ⟨p, hprincipal⟩, Classical.byContradiction fun hseeds => ?_⟩
  obtain ⟨error, connection, hsetUp⟩ := (achieves_setUp_opened hcontents p).fails hseeds
  rw [ofSettings_eq hcontents hprincipal, hsetUp] at hofSettings
  cases hofSettings

theorem privileges_ext {v w : Privileges} (h : ∀ c, v.allows c = true ↔ w.allows c = true) :
    v = w :=
  congrArg Privileges.mk (CapabilitySet.ext_allows fun c => Bool.eq_iff_iff.2 (h c))

namespace Access.Reports

/-- The lines are known by their names. -/
theorem roles_eq (h : access.Reports id settings) :
    access.roles = (access.roles.map (·.name)).map fun name =>
      ⟨name, (settings.members name).dedup.length,
        decide (name = everyoneName ∨ settings.principal ∈ settings.members name)⟩ := by
  have hline : ∀ line ∈ access.roles, (⟨line.name, (settings.members line.name).dedup.length,
      decide (line.name = everyoneName ∨ settings.principal ∈ settings.members line.name)⟩ :
        RoleLine) = line := by
    intro line hline
    simp only [← h.memberCount line hline, ← h.includesPrincipal line hline, Bool.decide_eq_true]
  have hlines := List.map_congr_left (g := fun line => line) hline
  rw [List.map_id'] at hlines
  rw [List.map_map]
  exact hlines.symm

theorem classes_eq (h : access.Reports id settings) (h' : access'.Reports id settings) :
    access.classes = access'.classes := by
  refine SortedMap.ext_get? fun className => ?_
  have hcontains := (h.classes className).trans (h'.classes className).symm
  rw [SortedMap.contains, SortedMap.contains] at hcontains
  cases hv : access.classes.get? className with
  | none =>
    rw [hv] at hcontains
    exact (Option.not_isSome_iff_eq_none.1 fun hsome => by cases hcontains.2 hsome).symm
  | some v =>
    rw [hv] at hcontains
    obtain ⟨v', hv'⟩ := Option.isSome_iff_exists.1 (hcontains.1 rfl)
    rw [hv', privileges_ext fun c => (h.ofClass hv c).trans (h'.ofClass hv' c).symm]

/-- What a report tells is determined by the settings. -/
theorem unique (h : access.Reports id settings) (h' : access'.Reports id settings) :
    access = access' := by
  have hstore : access.store = access'.store :=
    privileges_ext fun c => (h.store c).trans (h'.store c).symm
  have hnames : access.roles.map (·.name) = access'.roles.map (·.name) :=
    List.Pairwise.eq_of_mem_iff h.ascending h'.ascending
      fun role => (h.names role).trans (h'.names role).symm
  have hroles : access.roles = access'.roles := by
    rw [h.roles_eq, hnames, ← h'.roles_eq]
  have hid := h.storeId.trans h'.storeId.symm
  have hprincipal := h.principal.trans h'.principal.symm
  have hclasses := h.classes_eq h'
  cases access
  cases access'
  rw [Access.mk.injEq]
  exact ⟨hid, hprincipal, hstore, hclasses, hroles⟩

end Access.Reports

/-- **What a report tells.** Settings that were read make a report just if they are acceptable: no
class is named twice, the principal and all members are known by identifiers that are accepted, no
seed is of a role without a name, and grants on a class are on one of the classes. The report then
tells what the settings ask for, and nothing else could be told. -/
theorem Access.ofSettings_exact {principal classes roles grants : String}
    (h : Settings.parse principal classes roles grants = .ok settings) (caller : Thread)
    (id : StoreId) :
    ((∃ access, Access.ofSettings caller id settings = .ok access) ↔ settings.Acceptable) ∧
    ∀ access, Access.ofSettings caller id settings = .ok access ↔
      settings.Acceptable ∧ access.Reports id settings := by
  have hgood := (parse_eq_ok_iff_written.1 h).1
  refine ⟨⟨fun ⟨access, haccess⟩ => acceptable_of_ofSettings hgood haccess, fun hacceptable => ?_⟩,
    fun access => ⟨fun haccess => ?_, fun ⟨hacceptable, hreports⟩ => ?_⟩⟩
  · obtain ⟨access, haccess, -⟩ := ofSettings_eq_ok hgood hacceptable caller id
    exact ⟨access, haccess⟩
  · have hacceptable := acceptable_of_ofSettings hgood haccess
    obtain ⟨access', haccess', hreports⟩ := ofSettings_eq_ok hgood hacceptable caller id
    rw [haccess] at haccess'
    cases haccess'
    exact ⟨hacceptable, hreports⟩
  · obtain ⟨access', haccess', hreports'⟩ := ofSettings_eq_ok hgood hacceptable caller id
    rw [haccess', hreports.unique hreports']

/-- Two seeds of one role, which have a member in common, and a grant that takes the place of
another: there are three editors, and alice may delete documents but no longer read them. -/
theorem Access.ofSettings_exact_repeated_seeds :
    let settings : Settings :=
      ⟨"alice", ["Document"], [⟨"editors", ["alice", "bob"]⟩, ⟨"editors", ["bob", "carol"]⟩],
        [⟨.ofClass "Document", "editors", .ofList [.read]⟩,
          ⟨.ofClass "Document", everyoneName, .ofList []⟩,
          ⟨.ofClass "Document", "editors", .ofList [.delete]⟩]⟩
    let access : Access :=
      ⟨⟨0⟩, "alice", ⟨.all⟩, SortedMap.empty.insert "Document" ⟨.ofList [.delete]⟩,
        [⟨"editors", 3, true⟩, ⟨everyoneName, 0, true⟩]⟩
    Settings.parse "alice" "Document" "editors=alice|bob; editors=bob|carol"
        "Document:editors:read; Document:everyone:; Document:editors:delete" = .ok settings ∧
      Access.ofSettings ⟨0⟩ ⟨0⟩ settings = .ok access ∧
      settings.Acceptable ∧ access.Reports ⟨0⟩ settings := by
  intro settings access
  have hparse : Settings.parse "alice" "Document" "editors=alice|bob; editors=bob|carol"
      "Document:editors:read; Document:everyone:; Document:editors:delete" = .ok settings := rfl
  have haccess : Access.ofSettings ⟨0⟩ ⟨0⟩ settings = .ok access := by
    decide +kernel
  exact ⟨hparse, haccess, ((Access.ofSettings_exact hparse ⟨0⟩ ⟨0⟩).2 access).1 haccess⟩

end Outcome

end StoreAccess.Report
