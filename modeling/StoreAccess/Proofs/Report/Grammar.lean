import StoreAccess.Proofs.Text.Listed
import StoreAccess.Report.Settings

/-!
# The texts of report settings

`Settings.Written` says which texts write given settings: items and parts may have white space
around them, blank items may stand anywhere, and the capabilities of a grant may be named in any
order and repeatedly. Only well-formed settings can be read back, since no field may have the
separators that stand around it, nor white space at its ends.

Main statements: `Settings.parse_grammar`, that exactly the well-formed settings are read, from
exactly the texts that write them, and which texts are refused; and
`Settings.WellFormed.parse_text`, that they are read back as they are printed.
-/

namespace StoreAccess.Report

open Text

@[simp] theorem isWhiteSpace_separators :
    isWhiteSpace ',' = false ∧ isWhiteSpace ';' = false ∧ isWhiteSpace '|' = false ∧
      isWhiteSpace '=' = false ∧ isWhiteSpace ':' = false := by
  decide +kernel

/-! ## Well-formed settings -/

structure RoleSeed.WellFormed (seed : RoleSeed) : Prop where
  role : IsField [';', '='] seed.role
  members : ∀ member ∈ seed.members, member ≠ "" ∧ IsField [';', '|'] member

/-- A class that is called what stands for the store could not be told from it. -/
structure GrantSeed.WellFormed (seed : GrantSeed) : Prop where
  role : IsField [';', ':'] seed.role
  target : ∀ className, seed.target = .ofClass className →
    className ≠ ScopeKind.store.name ∧ IsField [';', ':'] className

structure Settings.WellFormed (settings : Settings) : Prop where
  principal : settings.principal ≠ "" ∧ IsTrimmed settings.principal.toList
  classes_ne_nil : settings.classes ≠ []
  classes : ∀ className ∈ settings.classes, className ≠ "" ∧ IsField [','] className
  roles : ∀ seed ∈ settings.roles, seed.WellFormed
  grants : ∀ seed ∈ settings.grants, seed.WellFormed

/-! ## Written settings -/

def RoleSeed.Written (seed : RoleSeed) (part : List Char) : Prop :=
  ∃ role members, Padded seed.role.toList role ∧
    Listed '|' (fun member => Padded member.toList) seed.members members ∧
    part = role ++ '=' :: members

def GrantTarget.name : GrantTarget → String
  | .store => ScopeKind.store.name
  | .ofClass className => className

/-- The capabilities are named in some order, some of them perhaps repeatedly. -/
def WrittenCapabilities (capabilities : CapabilitySet) (text : List Char) : Prop :=
  ∃ named, (∀ c, c ∈ named ↔ capabilities.allows c = true) ∧
    Listed '|' (fun c => Padded (Capability.name c).toList) named text

def GrantSeed.Written (seed : GrantSeed) (part : List Char) : Prop :=
  ∃ scope role capabilities, Padded seed.target.name.toList scope ∧
    Padded seed.role.toList role ∧ WrittenCapabilities seed.capabilities capabilities ∧
    part = scope ++ ':' :: (role ++ ':' :: capabilities)

/-- White space around an item is white space around its first and its last part. -/
structure Settings.Written (settings : Settings) (principal classes roles grants : String) :
    Prop where
  principal : Padded settings.principal.toList principal.toList
  classes : Listed ',' (fun className => Padded className.toList) settings.classes classes.toList
  roles : Listed ';' RoleSeed.Written settings.roles roles.toList
  grants : Listed ';' GrantSeed.Written settings.grants grants.toList

/-! ## One role -/

section Role

variable {part : List Char} {seed : RoleSeed}

/-- An item is cut where the part that it was trimmed from is. -/
theorem parseRole_trimmed (part : List Char) :
    Settings.parseRole (.ofList (trimmed part)) =
      match splitFirst '=' part with
      | none => .error (Settings.malformedRole (.ofList (trimmed part)))
      | some (role, members) => .ok ⟨.ofList (trimmed role), items '|' (.ofList members)⟩ := by
  have hpadded := padded_trimmed part
  rw [Settings.parseRole, String.toList_ofList]
  cases hcut : splitFirst '=' (trimmed part) with
  | none => rw [(hpadded.splitFirst_eq_none_iff (by simp)).1 hcut]
  | some parts =>
    obtain ⟨role, members, hcut', hrole, hmembers⟩ := hpadded.splitFirst_eq_some (by simp) hcut
    rw [hcut']
    simp only
    rw [hrole.trimmed_eq, hmembers.items_eq (by simp)]

theorem parseRole_eq_ok_iff :
    Settings.parseRole (.ofList (trimmed part)) = .ok seed ↔
      ∃ role members, '=' ∉ role ∧ part = role ++ '=' :: members ∧
        seed.role = .ofList (trimmed role) ∧ items '|' (.ofList members) = seed.members := by
  obtain ⟨name, listed⟩ := seed
  rw [parseRole_trimmed]
  cases hcut : splitFirst '=' part with
  | none =>
    refine iff_of_false (by simp) ?_
    rintro ⟨role, members, -, rfl, -⟩
    simp [splitFirst_eq_none_iff] at hcut
  | some parts =>
    constructor
    · rintro ⟨⟩
      obtain ⟨hrole, hpart⟩ := splitFirst_eq_some_iff.1 hcut
      exact ⟨_, _, hrole, hpart, rfl, rfl⟩
    · rintro ⟨role, members, hrole, hpart, rfl, rfl⟩
      rw [splitFirst_eq_some_iff.2 ⟨hrole, hpart⟩] at hcut
      cases hcut
      rfl

theorem RoleSeed.Written.not_blank (h : seed.Written part) : ¬ Blank part := by
  obtain ⟨role, members, -, -, rfl⟩ := h
  intro hblank
  have hwhite : isWhiteSpace '=' = false := by simp
  exact hblank.notMem hwhite (by simp)

theorem RoleSeed.Written.notMem (h : seed.Written part) (hgood : seed.WellFormed) :
    ';' ∉ part := by
  obtain ⟨role, members, hrole, hmembers, rfl⟩ := h
  have hfree := (isField_padded_iff (by simp)).1 ⟨hgood.role, hrole⟩
  have hfree' := (hmembers.notMem_iff (by simp) (by simp)).2
    fun member hmember => (hgood.members member hmember).2.notMem ';' (by simp)
  simp [hfree.2 ';' (by simp), hfree']

theorem parseRole_eq_ok_iff_written (hmem : ';' ∉ part) :
    Settings.parseRole (.ofList (trimmed part)) = .ok seed ↔
      seed.WellFormed ∧ seed.Written part := by
  rw [parseRole_eq_ok_iff]
  constructor
  · rintro ⟨role, members, hcut, rfl, hrole, hmembers⟩
    simp only [List.mem_append, List.mem_cons, not_or] at hmem
    have hfree : ∀ c ∈ [';', '='], c ∉ role := by simp [hmem.1, hcut]
    obtain ⟨hrole, hpadded⟩ := (isField_padded_iff (by simp)).2 ⟨hrole, hfree⟩
    obtain ⟨hgood, hlisted⟩ := (items_eq_iff (by simp)).1 hmembers
    rw [String.toList_ofList] at hlisted
    have hfree := (hlisted.notMem_iff (by simp) (by simp)).1 hmem.2.2
    refine ⟨⟨hrole, fun member hmember => ?_⟩, role, members, hpadded, hlisted, rfl⟩
    exact ⟨(hgood member hmember).1,
      isField_cons_iff.2 ⟨hfree member hmember, (hgood member hmember).2⟩⟩
  · rintro ⟨hgood, role, members, hrole, hlisted, rfl⟩
    obtain ⟨hrole, hfree⟩ := (isField_padded_iff (by simp)).1 ⟨hgood.role, hrole⟩
    refine ⟨role, members, hfree '=' (by simp), rfl, hrole, (items_eq_iff (by simp)).2 ⟨?_, ?_⟩⟩
    · exact fun member hmember =>
        ⟨(hgood.members member hmember).1, (isField_cons_iff.1 (hgood.members member hmember).2).2⟩
    · rwa [String.toList_ofList]

theorem reads_roles : Reads ';' Settings.parseRole RoleSeed.WellFormed RoleSeed.Written where
  white := by simp
  notMem hgood hwritten := hwritten.notMem hgood
  not_blank _ hwritten := hwritten.not_blank
  read_eq_ok_iff hmem _ := parseRole_eq_ok_iff_written hmem

end Role

/-! ## One grant -/

section Grant

variable {part : List Char} {seed : GrantSeed}

theorem isField_name (c : Capability) : IsField ['|'] c.name := by
  refine ⟨isTrimmed_of_trimmed_eq ?_, List.forall_mem_singleton.2 ?_⟩
  · cases c <;> decide +kernel
  · cases c <;> decide +kernel

theorem reads_capabilities :
    Reads '|' Capability.parse (fun _ => True) (fun c => Padded c.name.toList) := by
  have hname (c : Capability) {part : List Char} :
      Padded c.name.toList part ↔ c.name = .ofList (trimmed part) ∧ ∀ s ∈ ['|'], s ∉ part := by
    rw [← isField_padded_iff (by simp), and_iff_right (isField_name c)]
  refine ⟨by simp, fun {c part} _ hitem => ?_, fun {c part} _ hitem hblank => ?_,
    fun {c part} hmem _ => ?_⟩
  · exact ((hname c).1 hitem).2 '|' (by simp)
  · have hempty : c.name = "" := by
      rw [((hname c).1 hitem).1, trimmed_eq_nil_iff.2 hblank, String.ofList_nil]
    cases c <;> simp [Capability.name] at hempty
  · rw [true_and, hname, Capability.parse_eq_ok_iff, List.forall_mem_singleton,
      and_iff_left hmem, eq_comm]

theorem parse_capabilities_eq_ok_iff {text : List Char} {capabilities : CapabilitySet} :
    CapabilitySet.parse (items '|' (.ofList text)) = .ok capabilities ↔
      WrittenCapabilities capabilities text := by
  rw [CapabilitySet.parse, bind_eq_ok_iff]
  refine exists_congr fun named => ?_
  rw [reads_capabilities.mapM_items_eq_ok_iff, String.toList_ofList, pure_eq_ok, Except.ok.injEq,
    and_comm]
  have hset : CapabilitySet.ofList named = capabilities ↔
      ∀ c, c ∈ named ↔ capabilities.allows c = true := by
    constructor
    · rintro rfl c
      simp [CapabilitySet.allows_ofList]
    · intro h
      refine CapabilitySet.ext_allows fun c => ?_
      rw [CapabilitySet.allows_ofList, Bool.eq_iff_iff, decide_eq_true_iff, h c]
  simp [hset]

theorem exists_parse_capabilities_iff {text : List Char} :
    (∃ capabilities, CapabilitySet.parse (items '|' (.ofList text)) = .ok capabilities) ↔
      ∀ name ∈ text.splitOn '|', ¬ Blank name → ∃ c : Capability, trimmed name = c.name.toList := by
  have hname (name : List Char) (c : Capability) :
      Capability.parse (.ofList (trimmed name)) = .ok c ↔ trimmed name = c.name.toList := by
    rw [Capability.parse_eq_ok_iff, ← String.toList_inj, String.toList_ofList]
  simp only [← hname, CapabilitySet.parse, bind_eq_ok_iff]
  have hitems := @exists_mapM_items_iff '|' Capability (.ofList text) Capability.parse
  rw [String.toList_ofList] at hitems
  rw [← hitems, exists_comm]
  simp

/-- The first two colons part the text into these three. -/
structure ColonParts (part scope role capabilities : List Char) : Prop where
  notMem_scope : ':' ∉ scope
  notMem_role : ':' ∉ role
  part_eq : part = scope ++ ':' :: (role ++ ':' :: capabilities)

theorem exists_colonParts_iff :
    (∃ scope role capabilities, ColonParts part scope role capabilities) ↔ 2 ≤ part.count ':' := by
  constructor
  · rintro ⟨scope, role, capabilities, -, -, rfl⟩
    simp only [List.count_append, List.count_cons_self]
    omega
  · intro h
    cases hcut : splitFirst ':' part with
    | none =>
      have := List.count_eq_zero.2 (splitFirst_eq_none_iff.1 hcut)
      omega
    | some parts =>
      obtain ⟨hscope, hpart⟩ := splitFirst_eq_some_iff.1 hcut
      rw [hpart, List.count_append, List.count_eq_zero.2 hscope, List.count_cons_self] at h
      cases hcut' : splitFirst ':' parts.2 with
      | none =>
        have := List.count_eq_zero.2 (splitFirst_eq_none_iff.1 hcut')
        omega
      | some parts' =>
        obtain ⟨hrole, hrest⟩ := splitFirst_eq_some_iff.1 hcut'
        exact ⟨parts.1, parts'.1, parts'.2, hscope, hrole, by rw [← hrest, ← hpart]⟩

theorem grantParts?_eq_some_iff {parts : String × String × String} :
    Settings.grantParts? (.ofList part) = some parts ↔
      ∃ scope role capabilities, ColonParts part scope role capabilities ∧
        parts = (.ofList (trimmed scope), .ofList (trimmed role),
          .ofList (trimmed capabilities)) := by
  simp only [Settings.grantParts?, String.toList_ofList, Option.bind_eq_bind,
    Option.bind_eq_some_iff, Prod.exists, splitFirst_eq_some_iff]
  constructor
  · rintro ⟨scope, _, ⟨hscope, rfl⟩, role, capabilities, ⟨hrole, rfl⟩, ⟨⟩⟩
    exact ⟨scope, role, capabilities, ⟨hscope, hrole, rfl⟩, rfl⟩
  · rintro ⟨scope, role, capabilities, ⟨hscope, hrole, rfl⟩, rfl⟩
    exact ⟨scope, _, ⟨hscope, rfl⟩, role, capabilities, ⟨hrole, rfl⟩, rfl⟩

/-- The three parts are trimmed, so it does not matter whether the item is. -/
theorem grantParts?_trimmed (part : List Char) :
    Settings.grantParts? (.ofList (trimmed part)) = Settings.grantParts? (.ofList part) := by
  have hpadded := padded_trimmed part
  simp only [Settings.grantParts?, String.toList_ofList]
  cases hcut : splitFirst ':' (trimmed part) with
  | none => rw [(hpadded.splitFirst_eq_none_iff (by simp)).1 hcut]
  | some parts =>
    obtain ⟨scope, rest, hcut', hscope, hrest⟩ := hpadded.splitFirst_eq_some (by simp) hcut
    rw [hcut']
    simp only [Option.bind_eq_bind, Option.bind_some]
    cases hcut : splitFirst ':' parts.2 with
    | none => rw [(hrest.splitFirst_eq_none_iff (by simp)).1 hcut]; rfl
    | some parts =>
      obtain ⟨role, capabilities, hcut', hrole, hcapabilities⟩ :=
        hrest.splitFirst_eq_some (by simp) hcut
      rw [hcut']
      simp only [Option.bind_some]
      rw [hscope.trimmed_eq, hrole.trimmed_eq, hcapabilities.trimmed_eq]

theorem ColonParts.parseGrant_eq {scope role capabilities : List Char}
    (h : ColonParts part scope role capabilities) :
    Settings.parseGrant (.ofList (trimmed part)) =
      (⟨Settings.targetOf (.ofList (trimmed scope)), .ofList (trimmed role), ·⟩) <$>
        CapabilitySet.parse (items '|' (.ofList capabilities)) := by
  have hparts := grantParts?_eq_some_iff.2 ⟨scope, role, capabilities, h, rfl⟩
  rw [← grantParts?_trimmed] at hparts
  rw [Settings.parseGrant, hparts]
  simp only
  rw [← (padded_trimmed capabilities).items_eq (by simp)]
  rfl

theorem parseGrant_of_count (h : part.count ':' < 2) :
    Settings.parseGrant (.ofList (trimmed part)) =
      .error (Settings.malformedGrant (.ofList (trimmed part))) := by
  have hparts : Settings.grantParts? (.ofList (trimmed part)) = none := by
    rw [grantParts?_trimmed, Option.eq_none_iff_forall_ne_some]
    intro parts hparts
    obtain ⟨scope, role, capabilities, hparts, -⟩ := grantParts?_eq_some_iff.1 hparts
    have := exists_colonParts_iff.1 ⟨scope, role, capabilities, hparts⟩
    omega
  rw [Settings.parseGrant, hparts]

theorem targetOf_eq_iff {name : String} {target : GrantTarget} :
    Settings.targetOf name = target ↔ target.name = name ∧
      ∀ className, target = .ofClass className → className ≠ ScopeKind.store.name := by
  unfold Settings.targetOf
  cases target with
  | store => by_cases h : name = ScopeKind.store.name <;> simp [GrantTarget.name, h, eq_comm]
  | ofClass className =>
    by_cases h : name = ScopeKind.store.name
    · simp only [h, if_true, reduceCtorEq, GrantTarget.name, GrantTarget.ofClass.injEq,
        forall_eq', false_iff]
      exact fun hname => hname.2 hname.1
    · simp only [h, if_false, GrantTarget.ofClass.injEq, GrantTarget.name, forall_eq']
      exact ⟨fun heq => ⟨heq.symm, heq ▸ h⟩, fun heq => heq.1.symm⟩

theorem GrantSeed.wellFormed_iff : seed.WellFormed ↔
    IsField [';', ':'] seed.role ∧ IsField [';', ':'] seed.target.name ∧
      ∀ className, seed.target = .ofClass className → className ≠ ScopeKind.store.name := by
  have hstore : IsField [';', ':'] ScopeKind.store.name :=
    ⟨isTrimmed_of_trimmed_eq (by decide +kernel), by simp [ScopeKind.name]⟩
  obtain ⟨target, role, capabilities⟩ := seed
  constructor
  · rintro ⟨hrole, htarget⟩
    refine ⟨hrole, ?_, fun className h => (htarget className h).1⟩
    cases target with
    | store => exact hstore
    | ofClass className => exact (htarget className rfl).2
  · rintro ⟨hrole, hname, htarget⟩
    refine ⟨hrole, fun className h => ⟨htarget className h, ?_⟩⟩
    cases h
    exact hname

theorem parseGrant_eq_ok_iff :
    Settings.parseGrant (.ofList (trimmed part)) = .ok seed ↔
      ∃ scope role capabilities, ColonParts part scope role capabilities ∧
        Settings.targetOf (.ofList (trimmed scope)) = seed.target ∧
        seed.role = .ofList (trimmed role) ∧
        WrittenCapabilities seed.capabilities capabilities := by
  constructor
  · intro hok
    by_cases hcount : 2 ≤ part.count ':'
    · obtain ⟨scope, role, capabilities, hparts⟩ := exists_colonParts_iff.2 hcount
      rw [hparts.parseGrant_eq] at hok
      obtain ⟨set, hset, rfl⟩ := map_eq_ok_iff.1 hok
      exact ⟨scope, role, capabilities, hparts, rfl, rfl, parse_capabilities_eq_ok_iff.1 hset⟩
    · rw [parseGrant_of_count (by omega)] at hok
      cases hok
  · obtain ⟨target, name, set⟩ := seed
    rintro ⟨scope, role, capabilities, hparts, rfl, rfl, hset⟩
    rw [hparts.parseGrant_eq, parse_capabilities_eq_ok_iff.2 hset, ok_map]

theorem GrantSeed.Written.not_blank (h : seed.Written part) : ¬ Blank part := by
  obtain ⟨scope, role, capabilities, -, -, -, rfl⟩ := h
  intro hblank
  have hwhite : isWhiteSpace ':' = false := by simp
  exact hblank.notMem hwhite (by simp)

theorem GrantSeed.Written.notMem (h : seed.Written part) (hgood : seed.WellFormed) :
    ';' ∉ part := by
  obtain ⟨scope, role, capabilities, hscope, hrole, ⟨named, -, hnamed⟩, rfl⟩ := h
  obtain ⟨hgoodRole, hgoodScope, -⟩ := seed.wellFormed_iff.1 hgood
  have hfree := (isField_padded_iff (by simp)).1 ⟨hgoodScope, hscope⟩
  have hfree' := (isField_padded_iff (by simp)).1 ⟨hgoodRole, hrole⟩
  have hfree'' : ';' ∉ capabilities :=
    (hnamed.notMem_iff (by simp) (by simp)).2 fun c _ => by cases c <;> decide +kernel
  simp [hfree.2 ';' (by simp), hfree'.2 ';' (by simp), hfree'']

theorem parseGrant_eq_ok_iff_written (hmem : ';' ∉ part) :
    Settings.parseGrant (.ofList (trimmed part)) = .ok seed ↔
      seed.WellFormed ∧ seed.Written part := by
  rw [parseGrant_eq_ok_iff, GrantSeed.wellFormed_iff]
  constructor
  · rintro ⟨scope, role, capabilities, ⟨hcut, hcut', rfl⟩, htarget, hrole, hcapabilities⟩
    simp only [List.mem_append, List.mem_cons, not_or] at hmem
    obtain ⟨hscope, htarget⟩ := targetOf_eq_iff.1 htarget
    have hfree : ∀ c ∈ [';', ':'], c ∉ scope := by simp [hmem.1, hcut]
    have hfree' : ∀ c ∈ [';', ':'], c ∉ role := by simp [hmem.2.2.1, hcut']
    obtain ⟨hgood, hpadded⟩ := (isField_padded_iff (by simp)).2 ⟨hscope, hfree⟩
    obtain ⟨hgood', hpadded'⟩ := (isField_padded_iff (by simp)).2 ⟨hrole, hfree'⟩
    exact ⟨⟨hgood', hgood, htarget⟩, scope, role, capabilities, hpadded, hpadded',
      hcapabilities, rfl⟩
  · rintro ⟨⟨hgoodRole, hgoodScope, htarget⟩,
      scope, role, capabilities, hscope, hrole, hcapabilities, rfl⟩
    obtain ⟨hscope, hfree⟩ := (isField_padded_iff (by simp)).1 ⟨hgoodScope, hscope⟩
    obtain ⟨hrole, hfree'⟩ := (isField_padded_iff (by simp)).1 ⟨hgoodRole, hrole⟩
    exact ⟨scope, role, capabilities, ⟨hfree ':' (by simp), hfree' ':' (by simp), rfl⟩,
      targetOf_eq_iff.2 ⟨hscope, htarget⟩, hrole, hcapabilities⟩

theorem reads_grants : Reads ';' Settings.parseGrant GrantSeed.WellFormed GrantSeed.Written where
  white := by simp
  notMem hgood hwritten := hwritten.notMem hgood
  not_blank _ hwritten := hwritten.not_blank
  read_eq_ok_iff hmem _ := parseGrant_eq_ok_iff_written hmem

end Grant

/-! ## Refused texts -/

/-- The part writes no grant. -/
inductive FlawedGrant (part : List Char) : Prop
  | fewColons : part.count ':' < 2 → FlawedGrant part
  | unknownCapability {scope role names name : List Char} :
      ColonParts part scope role names → name ∈ names.splitOn '|' → ¬ Blank name →
        (∀ c : Capability, trimmed name ≠ c.name.toList) → FlawedGrant part

/-- The texts write no settings. -/
inductive Flawed (principal classes roles grants : String) : Prop
  | blankPrincipal : Blank principal.toList → Flawed principal classes roles grants
  | noClasses :
      (∀ part ∈ classes.toList.splitOn ',', Blank part) → Flawed principal classes roles grants
  | role {part : List Char} : part ∈ roles.toList.splitOn ';' → ¬ Blank part → '=' ∉ part →
      Flawed principal classes roles grants
  | grant {part : List Char} : part ∈ grants.toList.splitOn ';' → ¬ Blank part →
      FlawedGrant part → Flawed principal classes roles grants

theorem exists_parseRole_iff {part : List Char} :
    (∃ seed, Settings.parseRole (.ofList (trimmed part)) = .ok seed) ↔ '=' ∈ part := by
  rw [parseRole_trimmed]
  cases hcut : splitFirst '=' part with
  | none => simpa using splitFirst_eq_none_iff.1 hcut
  | some parts =>
    obtain ⟨-, hpart⟩ := splitFirst_eq_some_iff.1 hcut
    simp [hpart]

theorem exists_parseGrant_iff {part : List Char} :
    (∃ seed, Settings.parseGrant (.ofList (trimmed part)) = .ok seed) ↔ ¬ FlawedGrant part := by
  constructor
  · rintro ⟨seed, hseed⟩ (hcount | ⟨hparts, hname, hblank, hunknown⟩)
    · rw [parseGrant_of_count hcount] at hseed
      cases hseed
    · rw [hparts.parseGrant_eq] at hseed
      obtain ⟨capabilities, hcapabilities, -⟩ := map_eq_ok_iff.1 hseed
      obtain ⟨c, hc⟩ := exists_parse_capabilities_iff.1 ⟨_, hcapabilities⟩ _ hname hblank
      exact hunknown c hc
  · intro hflawed
    obtain ⟨scope, role, names, hparts⟩ := exists_colonParts_iff.2
      (Nat.le_of_not_lt fun hcount => hflawed (.fewColons hcount))
    have hnames : ∀ name ∈ names.splitOn '|', ¬ Blank name →
        ∃ c : Capability, trimmed name = c.name.toList := by
      intro name hname hblank
      refine Classical.byContradiction fun hunknown => ?_
      exact hflawed (.unknownCapability hparts hname hblank fun c hc => hunknown ⟨c, hc⟩)
    obtain ⟨capabilities, hcapabilities⟩ := exists_parse_capabilities_iff.2 hnames
    rw [hparts.parseGrant_eq, hcapabilities]
    exact ⟨_, ok_map _ _⟩

variable {principal classes roles grants : String} {settings : Settings}

theorem parse_eq (principal classes roles grants : String) :
    Settings.parse principal classes roles grants =
      if trim principal = "" then .error Settings.blankPrincipal
      else if items ',' classes = [] then .error Settings.noClasses
      else do
        return ⟨trim principal, items ',' classes, ← (items ';' roles).mapM Settings.parseRole,
          ← (items ';' grants).mapM Settings.parseGrant⟩ := by
  by_cases hprincipal : trim principal = ""
  · simp [Settings.parse, hprincipal]
  · by_cases hclasses : items ',' classes = []
    · simp [Settings.parse, hprincipal, hclasses]
    · simp [Settings.parse, hprincipal, hclasses]

theorem parse_eq_ok_iff :
    Settings.parse principal classes roles grants = .ok settings ↔
      (trim principal ≠ "" ∧ trim principal = settings.principal) ∧
      (items ',' classes ≠ [] ∧ items ',' classes = settings.classes) ∧
      (items ';' roles).mapM Settings.parseRole = .ok settings.roles ∧
      (items ';' grants).mapM Settings.parseGrant = .ok settings.grants := by
  obtain ⟨principal', classes', roles', grants'⟩ := settings
  rw [parse_eq]
  by_cases hprincipal : trim principal = ""
  · simp [hprincipal]
  by_cases hclasses : items ',' classes = []
  · simp [hprincipal, hclasses]
  simp only [hprincipal, hclasses, bind_eq_ok_iff, pure_eq_ok, if_false, ne_eq,
    not_false_eq_true, true_and, Except.ok.injEq, Settings.mk.injEq]
  constructor
  · rintro ⟨_, hroles, _, hgrants, rfl, rfl, rfl, rfl⟩
    exact ⟨rfl, rfl, hroles, hgrants⟩
  · rintro ⟨rfl, rfl, hroles, hgrants⟩
    exact ⟨roles', hroles, grants', hgrants, rfl, rfl, rfl, rfl⟩

theorem exists_parse_iff :
    (∃ settings, Settings.parse principal classes roles grants = .ok settings) ↔
      ¬ Flawed principal classes roles grants := by
  constructor
  · rintro ⟨settings, hsettings⟩ hflawed
    obtain ⟨⟨hprincipal, -⟩, ⟨hclasses, -⟩, hroles, hgrants⟩ := parse_eq_ok_iff.1 hsettings
    cases hflawed with
    | blankPrincipal hblank => exact hprincipal (trim_eq_empty_iff.2 (isBlank_iff.2 hblank))
    | noClasses hblank => exact hclasses (items_eq_nil_iff.2 hblank)
    | role hpart hblank hmem =>
      exact hmem (exists_parseRole_iff.1 (exists_mapM_items_iff.1 ⟨_, hroles⟩ _ hpart hblank))
    | grant hpart hblank hflawed =>
      exact exists_parseGrant_iff.1 (exists_mapM_items_iff.1 ⟨_, hgrants⟩ _ hpart hblank) hflawed
  · intro hflawed
    obtain ⟨roles', hroles⟩ := exists_mapM_items_iff.2 fun part hpart hblank =>
      exists_parseRole_iff.2 (Decidable.not_not.1 fun hmem => hflawed (.role hpart hblank hmem))
    obtain ⟨grants', hgrants⟩ := exists_mapM_items_iff.2 fun part hpart hblank =>
      exists_parseGrant_iff.2 fun hpart' => hflawed (.grant hpart hblank hpart')
    refine ⟨⟨trim principal, items ',' classes, roles', grants'⟩,
      parse_eq_ok_iff.2 ⟨⟨fun hempty => ?_, rfl⟩, ⟨fun hnil => ?_, rfl⟩, hroles, hgrants⟩⟩
    · exact hflawed (.blankPrincipal (isBlank_iff.1 (trim_eq_empty_iff.1 hempty)))
    · exact hflawed (.noClasses (items_eq_nil_iff.1 hnil))

theorem parseGrant_eq_error {item : String} {error : AccessError}
    (h : Settings.parseGrant item = .error error) : ∃ detail, error = .invalidArgument detail := by
  unfold Settings.parseGrant at h
  split at h
  · cases h
    exact ⟨_, rfl⟩
  · rcases bind_eq_error_iff.1 h with h | ⟨_, -, h⟩
    · rcases bind_eq_error_iff.1 h with h | ⟨_, -, h⟩
      · obtain ⟨name, -, hname⟩ := mapM_eq_error h
        unfold Capability.parse at hname
        split at hname
        · cases hname
        · cases hname
          exact ⟨_, rfl⟩
      · cases h
    · cases h

theorem parse_eq_error {error : AccessError}
    (h : Settings.parse principal classes roles grants = .error error) :
    ∃ detail, error = .invalidArgument detail := by
  rw [parse_eq] at h
  split at h
  · cases h
    exact ⟨_, rfl⟩
  split at h
  · cases h
    exact ⟨_, rfl⟩
  rcases bind_eq_error_iff.1 h with h | ⟨roles', -, h⟩
  · obtain ⟨item, -, hitem⟩ := mapM_eq_error h
    unfold Settings.parseRole at hitem
    split at hitem
    · cases hitem
      exact ⟨_, rfl⟩
    · cases hitem
  · rcases bind_eq_error_iff.1 h with h | ⟨_, -, h⟩
    · obtain ⟨item, -, hitem⟩ := mapM_eq_error h
      exact parseGrant_eq_error hitem
    · cases h

/-! ## Settings as they are printed -/

def RoleSeed.text (seed : RoleSeed) : String := seed.role ++ "=" ++ "|".intercalate seed.members

def GrantSeed.text (seed : GrantSeed) : String :=
  seed.target.name ++ ":" ++ seed.role ++ ":" ++
    "|".intercalate (seed.capabilities.toList.map Capability.name)

theorem RoleSeed.written_text (seed : RoleSeed) : seed.Written seed.text.toList := by
  refine ⟨seed.role.toList, ("|".intercalate seed.members).toList, padded_self _, ?_, ?_⟩
  · rw [String.toList_intercalate]
    exact listed_intercalate (fun member => padded_self _) _
  · simp [RoleSeed.text]

theorem GrantSeed.written_text (seed : GrantSeed) : seed.Written seed.text.toList := by
  refine ⟨seed.target.name.toList, seed.role.toList,
    ("|".intercalate (seed.capabilities.toList.map Capability.name)).toList, padded_self _,
    padded_self _, ⟨seed.capabilities.toList, fun c => CapabilitySet.mem_toList_iff, ?_⟩, ?_⟩
  · rw [String.toList_intercalate, List.map_map]
    exact listed_intercalate (fun c => padded_self _) _
  · simp [GrantSeed.text]

theorem Settings.written_text (settings : Settings) :
    settings.Written settings.principal (",".intercalate settings.classes)
      (";".intercalate (settings.roles.map RoleSeed.text))
      (";".intercalate (settings.grants.map GrantSeed.text)) where
  principal := padded_self _
  classes := by
    rw [String.toList_intercalate]
    exact listed_intercalate (fun className => padded_self _) _
  roles := by
    rw [String.toList_intercalate, List.map_map]
    exact listed_intercalate RoleSeed.written_text _
  grants := by
    rw [String.toList_intercalate, List.map_map]
    exact listed_intercalate GrantSeed.written_text _

/-! ## The grammar -/

theorem parse_eq_ok_iff_written :
    Settings.parse principal classes roles grants = .ok settings ↔
      settings.WellFormed ∧ settings.Written principal classes roles grants := by
  have hprincipal : trim principal = settings.principal ↔
      IsTrimmed settings.principal.toList ∧ Padded settings.principal.toList principal.toList := by
    rw [trim, ← String.toList_inj, String.toList_ofList, trimmed_eq_iff]
  rw [parse_eq_ok_iff, hprincipal, items_eq_iff (by simp), reads_roles.mapM_items_eq_ok_iff,
    reads_grants.mapM_items_eq_ok_iff]
  constructor
  · rintro ⟨⟨hne, htrimmed, hpadded⟩, ⟨hne', hclasses⟩, hroles, hgrants⟩
    rw [(hprincipal.2 ⟨htrimmed, hpadded⟩)] at hne
    rw [(items_eq_iff (by simp)).2 hclasses] at hne'
    exact ⟨⟨⟨hne, htrimmed⟩, hne', hclasses.1, hroles.1, hgrants.1⟩,
      ⟨hpadded, hclasses.2, hroles.2, hgrants.2⟩⟩
  · rintro ⟨hgood, hwritten⟩
    refine ⟨⟨?_, hgood.principal.2, hwritten.principal⟩,
      ⟨?_, hgood.classes, hwritten.classes⟩, ⟨hgood.roles, hwritten.roles⟩,
      hgood.grants, hwritten.grants⟩
    · rw [hprincipal.2 ⟨hgood.principal.2, hwritten.principal⟩]
      exact hgood.principal.1
    · rw [(items_eq_iff (by simp)).2 ⟨hgood.classes, hwritten.classes⟩]
      exact hgood.classes_ne_nil

theorem Settings.WellFormed.parse_text (h : settings.WellFormed) :
    Settings.parse settings.principal (",".intercalate settings.classes)
      (";".intercalate (settings.roles.map RoleSeed.text))
      (";".intercalate (settings.grants.map GrantSeed.text)) = .ok settings :=
  parse_eq_ok_iff_written.2 ⟨h, settings.written_text⟩

/-- **The grammar of report settings.** The well-formed settings are read, each from exactly the
texts that write them. Texts are refused exactly if they are flawed, and then always as an
invalid argument. -/
theorem Settings.parse_grammar (principal classes roles grants : String) :
    (∀ settings, Settings.parse principal classes roles grants = .ok settings ↔
      settings.WellFormed ∧ settings.Written principal classes roles grants) ∧
    ((∃ error, Settings.parse principal classes roles grants = .error error) ↔
      Flawed principal classes roles grants) ∧
    ∀ error, Settings.parse principal classes roles grants = .error error →
      ∃ detail, error = .invalidArgument detail := by
  refine ⟨fun settings => parse_eq_ok_iff_written, ?_, fun error => parse_eq_error⟩
  have hread := @exists_parse_iff principal classes roles grants
  cases hparse : Settings.parse principal classes roles grants with
  | ok settings =>
    rw [hparse] at hread
    simpa using hread
  | error error =>
    rw [hparse] at hread
    simpa using hread

/-- Blank items do not count, and a capability that is named twice is granted once. -/
example : Settings.parse " alice" "Document, ,Invoice" "editors = alice | | bob;"
      "store:editors: read|delete |read" =
    .ok ⟨"alice", ["Document", "Invoice"], [⟨"editors", ["alice", "bob"]⟩],
      [⟨.store, "editors", .ofList [.read, .delete]⟩]⟩ := by
  rfl

end StoreAccess.Report
