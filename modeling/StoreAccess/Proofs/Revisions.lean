import Mathlib.Data.List.Induction
import StoreAccess.Grant

/-!
# Lists of grants as ordered maps

A list of grants is revised by grants and revocations. What is found for a role afterwards is
what the last revision of the role has left, whatever was done to other roles meanwhile. The
entries that stay keep their order, and a role that comes in gets its entry at the end.

A list that was stored may hold a role more than once. A grant then changes the first entry of
the role only, and a revocation takes all of them, so the further entries stay as they were until
the role is revoked. The first entry of each role, its further entries and the order of the roles
make up a whole list.

Main statement: `revisions_exact`.
-/

namespace StoreAccess.GrantList

/-- A change of a list of grants. -/
inductive Revision where
  | grant (g : Grant)
  | revoke (role : String)
  deriving DecidableEq, Repr

namespace Revision

/-- The role whose entries are changed. -/
def role : Revision → String
  | grant g => g.role
  | revoke role => role

/-- The first entry that the role is left with. -/
def entry? : Revision → Option Grant
  | grant g => some g
  | revoke _ => none

end Revision

/-- The list after a revision. A revocation answers whether there were entries. -/
def revise (l : GrantList) : Revision → Option Bool × GrantList
  | .grant g => (none, l.grant g)
  | .revoke role => ((l.revoke role).1, (l.revoke role).2)

/-- Revisions one after the other, with their answers. -/
def reviseAll (l : GrantList) : List Revision → List (Option Bool) × GrantList
  | [] => ([], l)
  | r :: rs =>
    let (answer, revised) := l.revise r
    let (answers, last) := revised.reviseAll rs
    (answer :: answers, last)

/-- The list after revisions that are made one after the other. -/
def after (l : GrantList) (rs : List Revision) : GrantList := (l.reviseAll rs).2

/-- The entries of a role, of which there is one at most unless the role is repeated. -/
def entriesOf (l : GrantList) (role : String) : List Grant := l.entries.filter (·.role == role)

/-- The last revision of a role. -/
def lastOf? (role : String) (rs : List Revision) : Option Revision :=
  (rs.filter (·.role = role)).getLast?

/-- The roles for which an entry is added at the end and not taken away again, in the order in
which that is done. -/
def arrivals (l : GrantList) : List Revision → List String
  | [] => []
  | .grant g :: rs =>
    let later := (l.grant g).arrivals rs
    if g.role ∉ l.roles ∧ .revoke g.role ∉ rs then g.role :: later else later
  | .revoke role :: rs => (l.revoke role).2.arrivals rs

variable {l : GrantList} {g : Grant} {role : String} {rs : List Revision}

/-! ## One revision -/

theorem filter_place (g : Grant) (es : List Grant) (role : String) :
    (place g es).filter (·.role == role) =
      if role = g.role then g :: (es.filter (·.role == role)).tail
      else es.filter (·.role == role) := by
  induction es with
  | nil =>
    by_cases h : role = g.role
    · simp [place, h]
    · simp [place, h, Ne.symm h]
  | cons e es ih =>
    unfold place
    split
    · next he =>
      by_cases h : role = g.role
      · cases e
        simp_all
      · simp [he, h, Ne.symm h]
    · next he =>
      by_cases hr : e.role = role
      · have hne : ¬ role = g.role := fun hc => he (hr.trans hc)
        simp [hr, hne, ih]
      · simp [hr, ih]

/-- A grant changes the first entry of its role only. -/
theorem entriesOf_grant (l : GrantList) (g : Grant) (role : String) :
    (l.grant g).entriesOf role =
      if role = g.role then g :: (l.entriesOf role).tail else l.entriesOf role :=
  filter_place g l.entries role

/-- A revocation takes all entries of its role. -/
theorem entriesOf_revoke (l : GrantList) (r role : String) :
    (l.revoke r).2.entriesOf role = if role = r then [] else l.entriesOf role := by
  simp only [revoke, entriesOf, List.filter_filter]
  by_cases h : role = r
  · subst h
    rw [if_pos rfl, List.filter_eq_nil_iff]
    intro e _
    simp
  · rw [if_neg h]
    refine List.filter_congr fun e _ => ?_
    by_cases he : e.role = role
    · simp [he, h]
    · simp [he]

theorem roles_revoke (l : GrantList) (role : String) :
    (l.revoke role).2.roles = l.roles.filter (· ≠ role) := by
  rw [roles, roles, List.filter_map]
  rfl

theorem distinct_revoke (h : l.Distinct) (role : String) : (l.revoke role).2.Distinct := by
  unfold Distinct at *
  rw [roles_revoke]
  exact h.filter _

/-- A revocation tells whether there was an entry to be found. -/
theorem revoke_answer (l : GrantList) (role : String) :
    (l.revoke role).1 = (l.find? role).isSome := by
  rw [Bool.eq_iff_iff]
  simp [revoke, find?, List.length_filter_eq_length_iff]

theorem find?_revise (l : GrantList) (r : Revision) (role : String) :
    (l.revise r).2.find? role = if role = r.role then r.entry? else l.find? role := by
  cases r with
  | grant g => exact find?_grant l g role
  | revoke r => exact find?_revoke l r role

theorem tail_entriesOf_revise (l : GrantList) (r : Revision) (role : String) :
    ((l.revise r).2.entriesOf role).tail =
      if r = .revoke role then [] else (l.entriesOf role).tail := by
  cases r with
  | grant g =>
    have hentries := entriesOf_grant l g role
    rw [if_neg Revision.noConfusion, revise, hentries]
    split <;> rfl
  | revoke r =>
    have hentries := entriesOf_revoke l r role
    by_cases h : role = r
    · rw [if_pos (congrArg _ h.symm), revise, hentries, if_pos h, List.tail_nil]
    · rw [if_neg fun hr => h (Revision.revoke.inj hr).symm, revise, hentries, if_neg h]

theorem distinct_revise (h : l.Distinct) (r : Revision) : (l.revise r).2.Distinct := by
  cases r with
  | grant g => exact nodup_grant h g
  | revoke role => exact distinct_revoke h role

/-! ## Many revisions -/

@[simp] theorem after_nil (l : GrantList) : l.after [] = l := rfl

theorem after_cons (l : GrantList) (r : Revision) (rs : List Revision) :
    l.after (r :: rs) = (l.revise r).2.after rs := rfl

theorem reviseAll_append (l : GrantList) (rs rs' : List Revision) :
    l.reviseAll (rs ++ rs') =
      ((l.reviseAll rs).1 ++ ((l.after rs).reviseAll rs').1, ((l.after rs).reviseAll rs').2) := by
  induction rs generalizing l with
  | nil => rfl
  | cons r rs ih => simp only [List.cons_append, reviseAll, ih, after_cons]

theorem after_append (l : GrantList) (rs rs' : List Revision) :
    l.after (rs ++ rs') = (l.after rs).after rs' := by
  rw [after, reviseAll_append]
  rfl

theorem after_snoc (l : GrantList) (rs : List Revision) (r : Revision) :
    l.after (rs ++ [r]) = ((l.after rs).revise r).2 :=
  l.after_append rs [r]

theorem length_answers (l : GrantList) (rs : List Revision) :
    (l.reviseAll rs).1.length = rs.length := by
  induction rs generalizing l with
  | nil => rfl
  | cons r rs ih => simp only [reviseAll, List.length_cons, ih]

theorem lastOf?_snoc (role : String) (rs : List Revision) (r : Revision) :
    lastOf? role (rs ++ [r]) = if role = r.role then some r else lastOf? role rs := by
  rw [lastOf?, List.filter_append]
  by_cases h : role = r.role
  · simp [h]
  · simp [h, Ne.symm h, lastOf?]

/-- What is found for a role was left by its last revision. -/
theorem find?_after (l : GrantList) (role : String) (rs : List Revision) :
    (l.after rs).find? role = (lastOf? role rs).elim (l.find? role) Revision.entry? := by
  induction rs using List.reverseRecOn with
  | nil => rfl
  | append_singleton rs r ih =>
    rw [after_snoc, lastOf?_snoc, find?_revise, ih]
    split <;> rfl

/-- The further entries of a role stay until the role is revoked. -/
theorem tail_entriesOf_after (l : GrantList) (role : String) (rs : List Revision) :
    ((l.after rs).entriesOf role).tail =
      if .revoke role ∈ rs then [] else (l.entriesOf role).tail := by
  induction rs using List.reverseRecOn with
  | nil => rfl
  | append_singleton rs r ih =>
    rw [after_snoc, tail_entriesOf_revise, ih]
    by_cases hr : r = .revoke role
    · simp [hr]
    · simp [hr, Ne.symm hr]

/-- The roles of the entries that stay, in their order, and those that have come in. -/
theorem roles_after (l : GrantList) (rs : List Revision) :
    (l.after rs).roles = l.roles.filter (.revoke · ∉ rs) ++ l.arrivals rs := by
  induction rs generalizing l with
  | nil =>
    have hall : l.roles.filter (fun role => Revision.revoke role ∉ []) = l.roles :=
      List.filter_eq_self.2 fun _ _ => by simp
    rw [after_nil, hall, arrivals, List.append_nil]
  | cons r rs ih =>
    rw [after_cons, ih]
    cases r with
    | grant g =>
      have hmem : ∀ role, Revision.revoke role ∈ .grant g :: rs ↔ .revoke role ∈ rs := by simp
      simp only [revise, arrivals, roles_grant, hmem]
      by_cases hrole : g.role ∈ l.roles
      · simp [hrole]
      · by_cases hrevoked : Revision.revoke g.role ∈ rs
        · simp [hrole, hrevoked]
        · simp [hrole, hrevoked]
    | revoke role =>
      simp only [revise, arrivals, roles_revoke, List.filter_filter]
      congr 1
      refine List.filter_congr fun r _ => ?_
      simp [Bool.and_comm]

theorem distinct_after (h : l.Distinct) (rs : List Revision) : (l.after rs).Distinct := by
  induction rs generalizing l with
  | nil => exact h
  | cons r rs ih => exact ih (distinct_revise h r)

/-! ## Collecting grants -/

theorem after_map_grant (l : GrantList) (grants : List Grant) :
    l.after (grants.map .grant) = grants.foldl grant l := by
  induction grants generalizing l with
  | nil => rfl
  | cons g grants ih => exact ih (l.grant g)

/-- Of several grants to a role the last one stays. -/
theorem find?_ofList (grants : List Grant) (role : String) :
    (ofList grants).find? role = (grants.filter (·.role = role)).getLast? := by
  have hlast : lastOf? role (grants.map .grant) =
      (grants.filter (·.role = role)).getLast?.map .grant := by
    rw [lastOf?, List.filter_map, List.getLast?_map]
    rfl
  rw [ofList, ← after_map_grant, find?_after, hlast]
  cases (grants.filter (·.role = role)).getLast? <;> rfl

/-- The roles come in the order in which they were first granted anything. -/
theorem roles_ofList (grants : List Grant) :
    (ofList grants).roles = (grants.map (·.role)).eraseDups := by
  induction grants using List.reverseRecOn with
  | nil => rfl
  | append_singleton grants g ih =>
    have hsnoc : ofList (grants ++ [g]) = (ofList grants).grant g := by
      rw [ofList, List.foldl_append]
      rfl
    rw [hsnoc, roles_grant, ih, List.map_append, List.eraseDups_append]
    simp only [List.mem_eraseDups, List.map_cons, List.map_nil, List.removeAll]
    by_cases hrole : g.role ∈ grants.map (·.role)
    · simp only [hrole, if_true, List.filter_cons, List.elem_eq_mem]
      simp
    · simp only [hrole, if_false, List.filter_cons, List.elem_eq_mem]
      simp [List.eraseDups_cons]

/-! ## All that revisions do -/

/-- The answer that stands at the place of a revocation. -/
theorem getElem?_answers (l : GrantList) (before : List Revision) (role : String)
    (rest : List Revision) :
    (l.reviseAll (before ++ .revoke role :: rest)).1[before.length]? =
      some (some ((l.after before).find? role).isSome) := by
  have hlength := l.length_answers before
  simp only [reviseAll_append, List.getElem?_append_right (Nat.le_of_eq hlength), hlength,
    Nat.sub_self, ← revoke_answer]
  rfl

/-- **Lists of grants are ordered maps, whatever is done to them.** After any revisions of any
list, also of one that repeats roles, there is found for a role what its last revision has left,
or what was found before if no revision is of the role. The further entries of a role stay until
it is revoked. The roles of the entries that stay are in the order they had, and those that came
in follow in the order in which they did; a role without an entry gets one at the end of the list.
Each revocation answers whether an entry was to be found just before. A list that repeats no role
never does later. So grants that are collected into a list come to one entry for each role, in
the order in which the roles occur first and with the capabilities of the last occurrence; and a
list that repeats no role is collected unchanged. -/
theorem revisions_exact (l : GrantList) (rs : List Revision) :
    ((∀ role, (l.after rs).find? role = (lastOf? role rs).elim (l.find? role) Revision.entry?) ∧
      (∀ role, ((l.after rs).entriesOf role).tail =
        if .revoke role ∈ rs then [] else (l.entriesOf role).tail) ∧
      (l.after rs).roles = l.roles.filter (.revoke · ∉ rs) ++ l.arrivals rs ∧
      (∀ before g rest, rs = before ++ .grant g :: rest → (l.after before).find? g.role = none →
        (l.after (before ++ [.grant g])).entries = (l.after before).entries ++ [g]) ∧
      (∀ before role rest, rs = before ++ .revoke role :: rest →
        (l.reviseAll rs).1[before.length]? = some (some ((l.after before).find? role).isSome)) ∧
      (l.Distinct → (l.after rs).Distinct)) ∧
    (∀ grants, (ofList grants).Distinct ∧
      (ofList grants).roles = (grants.map (·.role)).eraseDups ∧
      ∀ role, (ofList grants).find? role = (grants.filter (·.role = role)).getLast?) ∧
    ∀ l' : GrantList, l'.Distinct → ofList l'.entries = l' := by
  refine ⟨⟨fun role => find?_after l role rs, fun role => tail_entriesOf_after l role rs,
    roles_after l rs, fun before g rest _ hnone => ?_, fun before role rest hrs => ?_,
    fun h => distinct_after h rs⟩, fun grants => ⟨nodup_ofList grants, roles_ofList grants,
    find?_ofList grants⟩, fun l' h => ?_⟩
  · rw [after_snoc]
    exact place_of_notMem (find?_eq_none_iff.1 hnone)
  · rw [hrs]
    exact l.getElem?_answers before role rest
  · exact congrArg GrantList.mk (entries_ofList h)

/-- A stored list with two entries of editors, which are granted something else, while readers are
revoked and come in again; and what is collected from the stored list. -/
theorem revisions_exact_repeated_role :
    let l : GrantList :=
      ⟨[⟨"editors", .ofList [.create]⟩, ⟨"readers", .all⟩, ⟨"editors", .ofList [.delete]⟩]⟩
    let rs : List Revision :=
      [.grant ⟨"editors", .ofList [.read]⟩, .revoke "readers", .grant ⟨"readers", .none⟩]
    (l.after rs).find? "editors" = some ⟨"editors", .ofList [.read]⟩ ∧
      ((l.after rs).entriesOf "editors").tail = [⟨"editors", .ofList [.delete]⟩] ∧
      (l.after rs).roles = ["editors", "editors", "readers"] ∧
      (l.reviseAll rs).1[1]? = some (some true) ∧
      (l.after rs).entries = (l.after (rs.take 2)).entries ++ [⟨"readers", .none⟩] ∧
      ((ofList l.entries).after rs).Distinct ∧
      ofList (ofList l.entries).entries = ofList l.entries := by
  intro l rs
  obtain ⟨⟨hfind, hfurther, hroles, happended, hanswers, -⟩, hcollect, hsame⟩ :=
    revisions_exact l rs
  have hdistinct : (ofList l.entries).Distinct := (hcollect l.entries).1
  refine ⟨(hfind "editors").trans rfl, (hfurther "editors").trans rfl, hroles.trans ?_,
    (hanswers [.grant ⟨"editors", .ofList [.read]⟩] "readers" _ rfl).trans rfl,
    happended (rs.take 2) _ [] rfl rfl, (revisions_exact _ rs).1.2.2.2.2.2 hdistinct,
    hsame _ hdistinct⟩
  decide

end StoreAccess.GrantList
