import Mathlib.Data.List.Nodup
import StoreAccess.Proofs.Resolution

/-!
# What a grant does to a resolution

A grant takes the place of the entry of its role, or is added at the end. What a resolution comes
to afterwards is made up of three parts: the entries of the other roles, which stay; the grant
itself, for those whom its role includes; and the template, as long as neither the list nor the
grant speaks of everyone. So a grant to a role that had none only adds, and one that is wider than
the entry before takes nothing away. The first grant to everyone is another matter: it comes
instead of the template.

Main statement: `grant_effect`.
-/

namespace StoreAccess

/-! ## The list after a grant -/

namespace GrantList

variable {l : GrantList} {g e : Grant} {role : String}

/-- The entries of a list without repeated roles are what is found for their roles. -/
theorem Distinct.mem_entries_iff (h : l.Distinct) : g ∈ l.entries ↔ l.find? g.role = some g := by
  refine ⟨fun hg => ?_, List.mem_of_find?_eq_some⟩
  cases hfound : l.find? g.role with
  | none => exact absurd (List.mem_map_of_mem hg) (find?_eq_none_iff.1 hfound)
  | some found =>
    have hrole : found.role = g.role := by simpa using List.find?_some hfound
    rw [List.inj_on_of_nodup_map h (List.mem_of_find?_eq_some hfound) hg hrole]

/-- After a grant there are the grant and the entries of the other roles, and no others. -/
theorem Distinct.mem_grant_iff (h : l.Distinct) :
    e ∈ (l.grant g).entries ↔ e = g ∨ e ∈ l.entries ∧ e.role ≠ g.role := by
  rw [(nodup_grant h g).mem_entries_iff, find?_grant, h.mem_entries_iff]
  by_cases hrole : e.role = g.role
  · simp [hrole, eq_comm]
  · have hne : e ≠ g := fun heq => hrole (congrArg Grant.role heq)
    simp [hrole, hne]

theorem mem_roles_grant_iff : role ∈ (l.grant g).roles ↔ role = g.role ∨ role ∈ l.roles := by
  rw [roles_grant]
  by_cases hg : g.role ∈ l.roles
  · rw [if_pos hg]
    exact ⟨.inr, fun h => h.elim (fun heq => heq ▸ hg) id⟩
  · rw [if_neg hg, List.mem_append, List.mem_singleton, or_comm]

end GrantList

namespace GrantSource

variable {source before after : GrantSource} {scope : Scope} {l : GrantList} {g : Grant}
  {roles : String → Option Role} {p : Principal} {v v' : Privileges}

/-! ## Resolutions before and after a grant -/

/-- A resolution at the scope weighs this list of grants and knows the roles of this table. -/
structure Holds (source : GrantSource) (scope : Scope) (l : GrantList)
    (roles : String → Option Role) : Prop where
  candidates : source.Candidates scope l
  findRole : ∀ role, source.findRole role = .ok (roles role)

theorem Holds.includes_iff (h : source.Holds scope l roles) (p : Principal) (role : String) :
    source.Includes p role ↔
      role = everyoneName ∨ ∃ found, roles role = some found ∧ found.hasMember p = true := by
  simp [Includes, h.findRole]

/-- The privileges are what the entries for roles with the principal give, together with the
template if no entry speaks of everyone. -/
def Sums (source : GrantSource) (p : Principal) (kind : ScopeKind) (l : GrantList)
    (v : Privileges) : Prop :=
  ∀ c, v.allows c = true ↔
    (∃ e ∈ l.entries, e.allows c = true ∧ source.Includes p e.role) ∨
      everyoneName ∉ l.roles ∧ (Policy.template kind).allows c = true

theorem Holds.privileges_eq_ok (h : source.Holds scope l roles) (p : Principal) :
    ∃ v, source.privileges p scope = .ok v ∧ source.Sums p scope.kind l v :=
  GrantSource.privileges_eq_ok h.candidates (fun g _ => .inr ⟨_, h.findRole g.role⟩) p

/-- What a resolution after a grant comes to, in terms of the list before it. -/
theorem Sums.grant {kind : ScopeKind} (h : source.Sums p kind (l.grant g) v) (hl : l.Distinct)
    (c : Capability) :
    v.allows c = true ↔
      (∃ e ∈ l.entries, e.role ≠ g.role ∧ e.allows c = true ∧ source.Includes p e.role) ∨
        g.allows c = true ∧ source.Includes p g.role ∨
        (everyoneName ∉ l.roles ∧ g.role ≠ everyoneName) ∧
          (Policy.template kind).allows c = true := by
  rw [h, GrantList.mem_roles_grant_iff, not_or, and_comm (a := ¬ everyoneName = g.role),
    ne_comm (a := g.role), ← or_assoc]
  refine or_congr_left ⟨?_, ?_⟩
  · rintro ⟨e, he, hallows, hin⟩
    rcases hl.mem_grant_iff.1 he with rfl | ⟨he, hrole⟩
    · exact .inr ⟨hallows, hin⟩
    · exact .inl ⟨e, he, hrole, hallows, hin⟩
  · rintro (⟨e, he, hrole, hallows, hin⟩ | ⟨hallows, hin⟩)
    · exact ⟨e, hl.mem_grant_iff.2 (.inr ⟨he, hrole⟩), hallows, hin⟩
    · exact ⟨g, hl.mem_grant_iff.2 (.inl rfl), hallows, hin⟩

/-- A role that had no entry adds what it is granted, for those whom it includes. -/
theorem Sums.adds {kind : ScopeKind} (h : source.Sums p kind l v)
    (h' : source.Sums p kind (l.grant g) v') (hl : l.Distinct) (hname : g.role ≠ everyoneName)
    (hnew : g.role ∉ l.roles) (c : Capability) :
    v'.allows c = true ↔ v.allows c = true ∨ g.allows c = true ∧ source.Includes p g.role := by
  have hother : ∀ e ∈ l.entries, e.role ≠ g.role := fun e he heq =>
    hnew (heq ▸ List.mem_map_of_mem he)
  rw [h'.grant hl, h, or_assoc, or_comm (a := g.allows c = true ∧ _)]
  refine or_congr (exists_congr fun e => and_congr_right fun he => ?_) (or_congr_left ?_)
  · exact and_iff_right (hother e he)
  · rw [and_iff_left hname]

/-- A grant that is no narrower than the entry of its role takes nothing away. -/
theorem Sums.widens {kind : ScopeKind} (h : source.Sums p kind l v)
    (h' : source.Sums p kind (l.grant g) v') (hl : l.Distinct) {e : Grant} (he : e ∈ l.entries)
    (hrole : e.role = g.role) (hwider : ∀ c, e.allows c = true → g.allows c = true)
    {c : Capability} (hallows : v.allows c = true) : v'.allows c = true := by
  rw [h'.grant hl]
  rcases (h c).1 hallows with ⟨e', he', hallows', hin⟩ | ⟨hnone, htemplate⟩
  · by_cases hrole' : e'.role = g.role
    · -- The two entries are of one role, so they are the same.
      obtain rfl : e' = e := List.inj_on_of_nodup_map hl he' he (hrole'.trans hrole.symm)
      exact .inr (.inl ⟨hwider c hallows', hrole ▸ hin⟩)
    · exact .inl ⟨e', he', hrole', hallows', hin⟩
  · have hname : g.role ≠ everyoneName := fun heq =>
      hnone (heq ▸ hrole ▸ List.mem_map_of_mem he)
    exact .inr (.inr ⟨⟨hnone, hname⟩, htemplate⟩)

/-- The first grant to everyone comes instead of the template. -/
theorem Sums.replaces {kind : ScopeKind} (h' : source.Sums p kind (l.grant g) v')
    (hl : l.Distinct) (hname : g.role = everyoneName) (hnew : everyoneName ∉ l.roles)
    (c : Capability) :
    v'.allows c = true ↔
      (∃ e ∈ l.entries, e.allows c = true ∧ source.Includes p e.role) ∨ g.allows c = true := by
  have hin : source.Includes p g.role := .inl hname
  have hother : ∀ e ∈ l.entries, e.role ≠ g.role := fun e he heq =>
    hnew (hname ▸ heq ▸ List.mem_map_of_mem he)
  rw [h'.grant hl]
  refine or_congr (exists_congr fun e => and_congr_right fun he => ?_) ?_
  · exact and_iff_right (hother e he)
  · rw [and_iff_left hin]
    simp [hname]

/-- **What a grant does to a resolution.** Let a scope have a list without repeated roles, and
after a grant that list with the grant made, both over the same table of roles. Then a principal
is allowed afterwards what the entries of the other roles give, what the grant gives if its role
includes the principal, and what the template gives if neither the list nor the grant speaks of
everyone.

So a grant to a role without an entry, other than everyone, adds just what it allows to those whom
its role includes. A grant to a role with an entry that is no wider takes nothing away, and the
first grant to everyone takes the place of the template. -/
theorem grant_effect (hl : l.Distinct) (hbefore : before.Holds scope l roles)
    (hafter : after.Holds scope (l.grant g) roles) (p : Principal) :
    ∃ v v', before.privileges p scope = .ok v ∧ after.privileges p scope = .ok v' ∧
      (∀ c, v'.allows c = true ↔
        (∃ e ∈ l.entries, e.role ≠ g.role ∧ e.allows c = true ∧ before.Includes p e.role) ∨
          g.allows c = true ∧ before.Includes p g.role ∨
          (everyoneName ∉ l.roles ∧ g.role ≠ everyoneName) ∧
            (Policy.template scope.kind).allows c = true) ∧
      (g.role ≠ everyoneName → g.role ∉ l.roles → ∀ c,
        v'.allows c = true ↔ v.allows c = true ∨ g.allows c = true ∧ before.Includes p g.role) ∧
      (∀ e ∈ l.entries, e.role = g.role → (∀ c, e.allows c = true → g.allows c = true) →
        ∀ c, v.allows c = true → v'.allows c = true) ∧
      (g.role = everyoneName → everyoneName ∉ l.roles → ∀ c,
        v'.allows c = true ↔
          (∃ e ∈ l.entries, e.allows c = true ∧ before.Includes p e.role) ∨
            g.allows c = true) := by
  obtain ⟨v, hv, hsums⟩ := hbefore.privileges_eq_ok p
  obtain ⟨v', hv', hsums'⟩ := hafter.privileges_eq_ok p
  have hsums' : before.Sums p scope.kind (l.grant g) v' := by
    intro c
    simp only [hsums' c, hafter.includes_iff, hbefore.includes_iff]
  exact ⟨v, v', hv, hv', hsums'.grant hl, hsums.adds hsums' hl,
    fun e he hrole hwider c => hsums.widens hsums' hl he hrole hwider, hsums'.replaces hl⟩

/-- The first grant to everyone on a class, where alice may delete as an editor. She may not
update any more, as the template allowed her to. -/
theorem grant_effect_first_everyone :
    let alice : Principal := ⟨"alice", by decide⟩
    let l : GrantList := ⟨[⟨"editors", .ofList [.delete]⟩]⟩
    let g : Grant := ⟨everyoneName, .ofList [.read]⟩
    let roles : String → Option Role := fun role =>
      if role = "editors" then some ⟨role, SortedSet.empty.insert alice⟩ else none
    let source : GrantList → GrantSource := fun l => {
      hasClass := fun className => .ok (className == "Document")
      classNames := .ok ["Document"]
      realmGrants := .ok default
      classGrants := fun className => .ok (some ⟨className, l⟩)
      objectGrants := fun _ => .ok .empty
      findRole := fun role => .ok (roles role) }
    l.Distinct ∧ (source l).Holds (.ofClass "Document") l roles ∧
      (source (l.grant g)).Holds (.ofClass "Document") (l.grant g) roles ∧
      ∃ v v', (source l).privileges alice (.ofClass "Document") = .ok v ∧
        (source (l.grant g)).privileges alice (.ofClass "Document") = .ok v' ∧
        v.allows .update = true ∧ ∀ c, v'.allows c = true ↔
          (∃ e ∈ l.entries, e.allows c = true ∧ (source l).Includes alice e.role) ∨
            g.allows c = true := by
  intro alice l g roles source
  have hl : l.Distinct := by decide
  have hholds : ∀ l, (source l).Holds (.ofClass "Document") l roles := fun l =>
    have hkept : (source l).classGrants "Document" = .ok (some ⟨"Document", l⟩) := rfl
    ⟨.ofClass ⟨by decide, rfl⟩ hkept, fun _ => rfl⟩
  obtain ⟨v, v', hv, hv', -, -, -, hfirst⟩ :=
    grant_effect hl (hholds l) (hholds (l.grant g)) alice
  have hupdate : v.allows .update = true := by
    obtain ⟨resolved, hresolved, hsums⟩ := (hholds l).privileges_eq_ok alice
    rw [hv] at hresolved
    cases hresolved
    exact (hsums .update).2
      (.inr ⟨by decide, (Policy.template_allows ..).2 (.inr ⟨nofun, nofun⟩)⟩)
  exact ⟨hl, hholds l, hholds _, v, v', hv, hv', hupdate, hfirst rfl (by decide)⟩

end GrantSource

end StoreAccess
