import StoreAccess.Proofs.Granting
import StoreAccess.Proofs.Inspection
import StoreAccess.Proofs.Revisions
import StoreAccess.Proofs.StoredForm

/-!
# What reading lets through

Whoever makes a label, a role, a grant or a list of grants step by step cannot give it a blank
name, and cannot give a role two entries in a list. `Ruled` says of each type which of its values
are made like that, and which rule they obey; `made_iff_obeys` says that this is the same.

Reading what is stored does not make values step by step and asks for no rule. So it is not the
case that only such values are read, `not_unforgeable`. What is read obeys the rule just if what
was stored did, and for these values all is as it is for those that were made.

Main statement: `read_as_stored`.
-/

namespace StoreAccess

open JsonForm

/-! ## Values that are made step by step -/

/-- A role is new or that of everyone, and then members come and go. -/
inductive Role.Made : Role → Prop
  | ofName {name : String} {role : Role} : Role.ofName name = .ok role → Made role
  | everyone : Made .everyone
  | insertMember {role : Role} (p : Principal) : Made role → Made (role.insertMember p).2
  | removeMember {role : Role} (p : Principal) : Made role → Made (role.removeMember p).2

inductive Grant.Made : Grant → Prop
  | ofName {role : String} {capabilities : CapabilitySet} {g : Grant} :
      Grant.ofName role capabilities = .ok g → Made g
  | toRole {role : Role} (capabilities : CapabilitySet) :
      role.Made → Made (.toRole role capabilities)

/-- A list is empty at first, and then grants are made and revoked. -/
inductive GrantList.Made : GrantList → Prop
  | empty : Made .empty
  | grant {l : GrantList} {g : Grant} : Made l → g.Made → Made (l.grant g)
  | revoke {l : GrantList} (role : String) : Made l → Made (l.revoke role).2

/-! ## Rules -/

/-- The text is there and is not blank. -/
def Named (text? : Option String) : Prop := ∃ text ∈ text?, Text.isBlank text = false

/-- The text that a record has as its first member. -/
def Json.firstText? (names : List String) (j : Json) : Option String :=
  (j.members? names).bind fun members => members.head?.join.bind Json.toString?

/-- The role that a stored grant names. -/
def Json.grantRole? (j : Json) : Option String := j.firstText? ["role", "capabilities"]

/-- Types with a rule: which values are made step by step, which obey the rule, and how it reads
on what is stored. -/
class Ruled (α : Type) where
  Made : α → Prop
  Obeys : α → Prop
  StoredObeys : Json → Prop

open Ruled

instance : Ruled Label where
  Made l := ∃ text, Label.ofText text = .ok l
  Obeys l := Text.isBlank l.text = false
  StoredObeys j := Named j.toString?

instance : Ruled Role where
  Made := Role.Made
  Obeys role := Text.isBlank role.name = false
  StoredObeys j := Named (j.firstText? ["name", "members"])

instance : Ruled Grant where
  Made := Grant.Made
  Obeys g := Text.isBlank g.role = false
  StoredObeys j := Named j.grantRole?

instance : Ruled GrantList where
  Made := GrantList.Made
  Obeys l := l.Distinct ∧ ∀ role ∈ l.roles, Text.isBlank role = false
  StoredObeys j := ∃ items, j.toList? = some items ∧
    (items.map Json.grantRole?).Nodup ∧ ∀ text? ∈ items.map Json.grantRole?, Named text?

/-- The grants on a store are made as their list is. -/
instance : Ruled RealmGrants where
  Made realm := Made realm.grants
  Obeys realm := Obeys realm.grants
  StoredObeys j := ∃ stored, j.members? ["permissions"] = some [some stored] ∧
    StoredObeys GrantList stored

/-- The grants on a class are made for a name, and then as their list is. -/
instance : Ruled ClassGrants where
  Made c := (∃ kept, ClassGrants.ofName c.className = .ok kept) ∧ Made c.grants
  Obeys c := Text.isBlank c.className = false ∧ Obeys c.grants
  StoredObeys j := ∃ name? stored, j.members? ["name", "permissions"] = some [name?, some stored] ∧
    Named (name?.bind Json.toString?) ∧ StoredObeys GrantList stored

/-- The values that are made are those that obey the rule, and what is read obeys it just if what
was stored does. -/
class LawfulRule (α : Type) [JsonForm α] [Ruled α] : Prop where
  made_iff_obeys : ∀ {a : α}, Made a ↔ Obeys a
  obeys_iff_stored : ∀ {j : Json} {a : α}, ofJson? j = some a → (Obeys a ↔ StoredObeys α j)

theorem not_blank_iff_named {text? : Option String} {text : String} (h : text? = some text) :
    Text.isBlank text = false ↔ Named text? := by
  simp [Named, h]

/-! ## Names -/

theorem Label.ofText_eq_ok_iff {text : String} {l : Label} :
    ofText text = .ok l ↔ l = ⟨text⟩ ∧ Text.isBlank text = false := by
  constructor
  · intro h
    obtain ⟨name, hname, rfl⟩ := map_eq_ok_iff.1 h
    obtain ⟨rfl, hblank⟩ := requireName_eq_ok_iff.1 hname
    exact ⟨rfl, hblank⟩
  · rintro ⟨rfl, hblank⟩
    exact map_eq_ok_iff.2 ⟨text, requireName_eq_ok_iff.2 ⟨rfl, hblank⟩, rfl⟩

instance : LawfulRule Label where
  made_iff_obeys {l} := by
    constructor
    · rintro ⟨text, hmade⟩
      obtain ⟨rfl, hblank⟩ := Label.ofText_eq_ok_iff.1 hmade
      exact hblank
    · exact fun hblank => ⟨l.text, Label.ofText_eq_ok_iff.2 ⟨rfl, hblank⟩⟩
  obeys_iff_stored {j l} h := by
    obtain ⟨text, htext, rfl⟩ := Option.map_eq_some_iff.1 h
    exact not_blank_iff_named htext

theorem Role.Made.not_blank {role : Role} (h : role.Made) : Text.isBlank role.name = false := by
  induction h with
  | ofName hname =>
    obtain ⟨rfl, hblank⟩ := Role.ofName_eq_ok_iff.1 hname
    exact hblank
  | everyone => decide
  | insertMember p _ ih => exact ih
  | removeMember p _ ih => exact ih

/-- Members can be added to a role that is made, one after the other. -/
theorem Role.Made.insertMembers {role : Role} (h : role.Made) (ps : List Principal) :
    Role.Made { role with members := ps.foldl .insert role.members } := by
  induction ps generalizing role with
  | nil => exact h
  | cons p ps ih => exact ih (h.insertMember p)

theorem Role.made_of_not_blank {role : Role} (h : Text.isBlank role.name = false) :
    role.Made := by
  have hnew : Role.Made ⟨role.name, .empty⟩ := .ofName (Role.ofName_eq_ok_iff.2 ⟨rfl, h⟩)
  have hmade := hnew.insertMembers role.members.toList
  have hmembers : role.members.toList.foldl .insert .empty = role.members :=
    SortedSet.ofList_toList role.members
  rwa [hmembers] at hmade

theorem Role.firstText?_of_ofJson? {j : Json} {role : Role} (h : ofJson? j = some role) :
    j.firstText? ["name", "members"] = some role.name := by
  obtain ⟨members, hmembers, h⟩ := Option.bind_eq_some_iff.1 h
  split at h
  · obtain ⟨ps, -, h⟩ := Option.bind_eq_some_iff.1 h
    obtain ⟨name, hname, h⟩ := Option.bind_eq_some_iff.1 h
    cases h
    rw [Json.firstText?, hmembers]
    exact hname
  · cases h

instance : LawfulRule Role where
  made_iff_obeys := ⟨Role.Made.not_blank, Role.made_of_not_blank⟩
  obeys_iff_stored h := not_blank_iff_named (Role.firstText?_of_ofJson? h)

/-! ## Grants -/

theorem Grant.Made.not_blank {g : Grant} (h : g.Made) : Text.isBlank g.role = false := by
  cases h with
  | ofName hname =>
    obtain ⟨rfl, hblank⟩ := Grant.ofName_eq_ok_iff.1 hname
    exact hblank
  | toRole capabilities hrole => exact hrole.not_blank

theorem Grant.grantRole?_of_ofJson? {j : Json} {g : Grant} (h : ofJson? j = some g) :
    j.grantRole? = some g.role := by
  obtain ⟨members, hmembers, h⟩ := Option.bind_eq_some_iff.1 h
  split at h
  · obtain ⟨role, hrole, h⟩ := Option.bind_eq_some_iff.1 h
    obtain ⟨capabilities, -, h⟩ := Option.bind_eq_some_iff.1 h
    cases h
    rw [Json.grantRole?, Json.firstText?, hmembers]
    exact hrole
  · cases h

instance : LawfulRule Grant where
  made_iff_obeys :=
    ⟨Grant.Made.not_blank, fun hblank => .ofName (Grant.ofName_eq_ok_iff.2 ⟨rfl, hblank⟩)⟩
  obeys_iff_stored h := not_blank_iff_named (Grant.grantRole?_of_ofJson? h)

/-! ## Lists of grants -/

theorem GrantList.Made.obeys {l : GrantList} (h : l.Made) : Obeys l := by
  induction h with
  | empty => exact ⟨GrantList.nodup_empty, fun role hrole => by cases hrole⟩
  | @grant l g _ hg ih =>
    refine ⟨GrantList.nodup_grant ih.1 g, fun role hrole => ?_⟩
    rcases GrantList.mem_roles_grant_iff.1 hrole with rfl | hrole
    · exact hg.not_blank
    · exact ih.2 role hrole
  | @revoke l revoked _ ih =>
    refine ⟨GrantList.distinct_revoke ih.1 revoked, fun role hrole => ?_⟩
    rw [GrantList.roles_revoke] at hrole
    exact ih.2 role (List.mem_of_mem_filter hrole)

theorem GrantList.Made.grantAll {l : GrantList} (h : l.Made) {gs : List Grant}
    (hgs : ∀ g ∈ gs, g.Made) : GrantList.Made (gs.foldl .grant l) := by
  induction gs generalizing l with
  | nil => exact h
  | cons g gs ih =>
    obtain ⟨hg, hgs⟩ := List.forall_mem_cons.1 hgs
    exact ih (h.grant hg) hgs

/-- A list that obeys the rule is made by granting its entries in their order. -/
theorem GrantList.made_of_obeys {l : GrantList} (h : Obeys l) : l.Made := by
  obtain ⟨hdistinct, hnamed⟩ := h
  have hentries : ofList l.entries = l := congrArg GrantList.mk (entries_ofList hdistinct)
  rw [← hentries]
  exact GrantList.Made.empty.grantAll fun g hg =>
    .ofName (Grant.ofName_eq_ok_iff.2 ⟨rfl, hnamed g.role (List.mem_map_of_mem hg)⟩)

/-- The roles of grants that are read are those of the items. -/
theorem GrantList.grantRoles_of_mapM {items : List Json} {gs : List Grant}
    (h : items.mapM ofJson? = some gs) :
    items.map Json.grantRole? = (gs.map (·.role)).map some := by
  induction items generalizing gs with
  | nil =>
    cases h
    rfl
  | cons item items ih =>
    rw [List.mapM_cons] at h
    obtain ⟨g, hg, h⟩ := Option.bind_eq_some_iff.1 h
    obtain ⟨gs', hgs', h⟩ := Option.bind_eq_some_iff.1 h
    cases h
    rw [List.map_cons, Grant.grantRole?_of_ofJson? hg, ih hgs', List.map_cons, List.map_cons]

instance : LawfulRule GrantList where
  made_iff_obeys := ⟨GrantList.Made.obeys, GrantList.made_of_obeys⟩
  obeys_iff_stored {j l} h := by
    obtain ⟨gs, hgs, rfl⟩ := Option.map_eq_some_iff.1 h
    obtain ⟨items, hitems, hmapM⟩ := Option.bind_eq_some_iff.1 hgs
    have hroles := GrantList.grantRoles_of_mapM hmapM
    have hnodup : (items.map Json.grantRole?).Nodup ↔ (gs.map (·.role)).Nodup := by
      rw [hroles, List.nodup_map_iff fun _ _ => Option.some.inj]
    have hnamed : (∀ text? ∈ items.map Json.grantRole?, Named text?) ↔
        ∀ role ∈ gs.map (·.role), Text.isBlank role = false := by
      rw [hroles, List.forall_mem_map]
      exact forall₂_congr fun role _ => (not_blank_iff_named rfl).symm
    constructor
    · exact fun ⟨hdistinct, hblank⟩ => ⟨items, hitems, hnodup.2 hdistinct, hnamed.2 hblank⟩
    · rintro ⟨items', hitems', hdistinct, hblank⟩
      obtain rfl := Option.some.inj (hitems'.symm.trans hitems)
      exact ⟨hnodup.1 hdistinct, hnamed.1 hblank⟩

/-! ## Where grants are kept -/

instance : LawfulRule RealmGrants where
  made_iff_obeys {realm} := LawfulRule.made_iff_obeys (a := realm.grants)
  obeys_iff_stored {j realm} h := by
    obtain ⟨members, hmembers, h⟩ := Option.bind_eq_some_iff.1 h
    split at h
    · obtain ⟨grants, hgrants, h⟩ := Option.bind_eq_some_iff.1 h
      cases h
      obtain ⟨stored, rfl, hgrants⟩ := Option.bind_eq_some_iff.1 hgrants
      refine (LawfulRule.obeys_iff_stored hgrants).trans ?_
      constructor
      · exact fun hstored => ⟨stored, hmembers, hstored⟩
      · rintro ⟨stored', hmembers', hstored⟩
        cases hmembers.symm.trans hmembers'
        exact hstored
    · cases h

theorem ClassGrants.exists_ofName_iff {className : String} :
    (∃ kept, ofName className = .ok kept) ↔ Text.isBlank className = false := by
  constructor
  · rintro ⟨kept, hkept⟩
    exact (ClassGrants.ofName_eq_ok_iff.1 hkept).2
  · exact fun hblank => ⟨_, ClassGrants.ofName_eq_ok_iff.2 ⟨rfl, hblank⟩⟩

instance : LawfulRule ClassGrants where
  made_iff_obeys := and_congr ClassGrants.exists_ofName_iff LawfulRule.made_iff_obeys
  obeys_iff_stored {j c} h := by
    obtain ⟨members, hmembers, h⟩ := Option.bind_eq_some_iff.1 h
    split at h
    · next name? grants? =>
      obtain ⟨className, hname, h⟩ := Option.bind_eq_some_iff.1 h
      obtain ⟨grants, hgrants, h⟩ := Option.bind_eq_some_iff.1 h
      cases h
      obtain ⟨stored, rfl, hgrants⟩ := Option.bind_eq_some_iff.1 hgrants
      have htext : name?.bind Json.toString? = some className := hname
      have hnamed := not_blank_iff_named htext
      refine (and_congr hnamed (LawfulRule.obeys_iff_stored hgrants)).trans ?_
      constructor
      · exact fun ⟨hnamed, hstored⟩ => ⟨name?, stored, hmembers, hnamed, hstored⟩
      · rintro ⟨name', stored', hmembers', hnamed, hstored⟩
        cases hmembers.symm.trans hmembers'
        exact ⟨hnamed, hstored⟩
    · cases h

/-! ## What is read -/

/-- Only values that obey the rule are read. -/
def Unforgeable (α : Type) [JsonForm α] [Ruled α] : Prop :=
  ∀ (j : Json) (a : α), ofJson? j = some a → Obeys a

/-- A blank text is read as a label, and as the name of a role, in a grant and of a class. A list
with two entries for editors is read as it is stored: a resolution counts both, and of what is
shown the second hides the first. -/
theorem not_unforgeable :
    let alice : Principal := ⟨"alice", by decide⟩
    let create : Json := toJson (CapabilitySet.ofList [.create])
    let nothing : Json := toJson CapabilitySet.none
    let unnamed : Json := .array [.array [.string " ", create]]
    let repeated : Json :=
      .array [.array [.string "editors", create], .array [.string "editors", nothing]]
    ¬ Unforgeable Label ∧ ¬ Unforgeable Role ∧ ¬ Unforgeable Grant ∧ ¬ Unforgeable GrantList ∧
      ¬ Unforgeable RealmGrants ∧ ¬ Unforgeable ClassGrants ∧
      (∃ l : GrantList, ofJson? unnamed = some l ∧ " " ∈ l.roles) ∧
      ∃ (l : GrantList) (source : GrantSource) (v : Privileges), ofJson? repeated = some l ∧
        ¬ l.Distinct ∧ source.grantsAt (.ofClass "Document") = .ok l ∧
        source.privileges alice (.ofClass "Document") = .ok v ∧
        ¬ source.Tallies alice (Policy.shown .ofClass l) v := by
  intro alice create nothing unnamed repeated
  let blank : GrantList := ⟨[⟨" ", .ofList [.create]⟩]⟩
  let twice : GrantList := ⟨[⟨"editors", .ofList [.create]⟩, ⟨"editors", .none⟩]⟩
  have hblank : ¬ Text.isBlank " " = false := by decide
  have hunnamed : ofJson? unnamed = some blank := by rfl
  have hrepeated : ofJson? repeated = some twice := by rfl
  refine ⟨fun h => ?_, fun h => ?_, fun h => ?_, fun h => ?_, fun h => ?_, fun h => ?_,
    ⟨blank, hunnamed, by decide⟩, ?_⟩
  · exact hblank (h (.string " ") ⟨" "⟩ rfl)
  · exact hblank (h (.array [.string " ", .array []]) ⟨" ", .empty⟩ rfl)
  · exact hblank (h (.array [.string " ", create]) ⟨" ", .ofList [.create]⟩ rfl)
  · exact absurd (h repeated twice hrepeated).1 (by decide)
  · exact absurd (h (.array [repeated]) ⟨twice⟩ rfl).1 (by decide)
  · exact hblank (h (.array [.string " ", .array []]) ⟨" ", .empty⟩ rfl).1
  · let source : GrantSource := {
      hasClass := fun _ => .ok true
      classNames := .ok ["Document"]
      realmGrants := .ok default
      classGrants := fun className => .ok (some ⟨className, twice⟩)
      objectGrants := fun _ => .ok .empty
      findRole := fun role => .ok (some ⟨role, SortedSet.empty.insert alice⟩) }
    have hlost : ∀ g ∈ (Policy.shown .ofClass twice).entries, g.allows .create = false := by
      decide
    refine ⟨twice, source, ⟨CapabilitySet.all.clear .delete⟩, hrepeated, by decide, by rfl,
      by decide +kernel, fun htallies => ?_⟩
    obtain ⟨g, hg, hallows, -⟩ := (htallies.allows_iff .create).1 (by decide)
    simp [hlost g hg] at hallows

/-- A value that is read from the stored form is one that is made step by step, or obeys the rule,
just if the form obeys it. -/
structure ReadAsStored (α : Type) [JsonForm α] [Ruled α] (j : Json) : Prop where
  made_iff : ∀ a : α, ofJson? j = some a → (Made a ↔ StoredObeys α j)
  obeys_iff : ∀ a : α, ofJson? j = some a → (Obeys a ↔ StoredObeys α j)

theorem readAsStored (α : Type) [JsonForm α] [Ruled α] [LawfulRule α] (j : Json) :
    ReadAsStored α j where
  made_iff _ h := LawfulRule.made_iff_obeys.trans (LawfulRule.obeys_iff_stored h)
  obeys_iff _ h := LawfulRule.obeys_iff_stored h

/-- **Values are read as they are stored.** Whatever is stored, a value that is read from it is one
that is made step by step just if what was stored has no blank name and no list with two entries
for a role. For a list of grants that is read from something like that, what inspection shows adds
up to what a resolution comes to, as it does for lists that were made. -/
theorem read_as_stored (j : Json) :
    (ReadAsStored Label j ∧ ReadAsStored Role j ∧ ReadAsStored Grant j ∧
      ReadAsStored GrantList j ∧ ReadAsStored RealmGrants j ∧ ReadAsStored ClassGrants j) ∧
    ∀ l : GrantList, ofJson? j = some l → StoredObeys GrantList j →
      l.Distinct ∧ ∀ (source : GrantSource) p scope v, source.grantsAt scope = .ok l →
        source.privileges p scope = .ok v →
          source.Tallies p (Policy.shown scope.kind l) v := by
  refine ⟨⟨readAsStored _ j, readAsStored _ j, readAsStored _ j, readAsStored _ j,
    readAsStored _ j, readAsStored _ j⟩, fun l hread hstored => ?_⟩
  have hdistinct : l.Distinct := ((LawfulRule.obeys_iff_stored hread).2 hstored).1
  refine ⟨hdistinct, fun source p scope v hl hv => ?_⟩
  obtain ⟨l', hcandidates, hallows⟩ := GrantSource.candidates_of_privileges hv
  have hl' := GrantSource.grantsAt_eq_ok_iff.2 hcandidates
  obtain rfl : l' = l := Except.ok.inj (hl'.symm.trans hl)
  exact GrantSource.tallies_shown hdistinct hallows

/-- Lists with entries for editors and readers, and with two for editors. -/
theorem read_as_stored_two_lists :
    let create : Json := toJson (CapabilitySet.ofList [.create])
    let distinct : Json :=
      .array [.array [.string "editors", create], .array [.string "readers", create]]
    let repeated : Json :=
      .array [.array [.string "editors", create], .array [.string "editors", create]]
    ∃ l l' : GrantList, ofJson? distinct = some l ∧ ofJson? repeated = some l' ∧
      l.Made ∧ l.Distinct ∧ ¬ l'.Made := by
  intro create distinct repeated
  let g : String → Grant := fun role => ⟨role, .ofList [.create]⟩
  have hdistinct : ofJson? distinct = some (⟨[g "editors", g "readers"]⟩ : GrantList) := by rfl
  have hrepeated : ofJson? repeated = some (⟨[g "editors", g "editors"]⟩ : GrantList) := by rfl
  obtain ⟨⟨-, -, -, hlist, -, -⟩, hobeys⟩ := read_as_stored distinct
  obtain ⟨⟨-, -, -, hlist', -, -⟩, -⟩ := read_as_stored repeated
  have hstored : StoredObeys GrantList distinct := by
    refine ⟨_, rfl, by decide, List.forall_mem_cons.2 ⟨⟨"editors", rfl, by decide⟩, ?_⟩⟩
    exact List.forall_mem_singleton.2 ⟨"readers", rfl, by decide⟩
  have hnot : ¬ StoredObeys GrantList repeated := by
    rintro ⟨items, hitems, hnodup, -⟩
    cases hitems
    exact absurd hnodup (by decide)
  exact ⟨_, _, hdistinct, hrepeated, (hlist.made_iff _ hdistinct).2 hstored,
    (hobeys _ hdistinct hstored).1, fun hmade => hnot ((hlist'.made_iff _ hrepeated).1 hmade)⟩

end StoreAccess
