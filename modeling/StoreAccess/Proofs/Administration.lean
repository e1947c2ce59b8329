import StoreAccess.Proofs.Steps
import StoreAccess.Request

/-!
# Checks before changes

Administering roles first checks the handle, the identifier and the role, and asks the store for
changes only after that. What the store is asked for shows in a log: `recorded` is the same store
with a log beside its state, in which each change that is asked for is noted with whether it was
made. The log changes neither answers nor states, so what it says goes for every store.

`grounds` lists what can be wrong with a request, in the order in which it counts, and `Course` all
that can come of one: it is refused for the first ground that applies, and then the store is asked
for nothing, or it asks for its changes up to the first that fails.

Main statement: `checked_before_changed`.
-/

namespace StoreAccess

/-! ## The log -/

/-- A change that a store may be asked for. -/
inductive Demand where
  | createRole (role : String)
  | recordPrincipal (p : Principal)
  | insertMember (role : String) (p : Principal)
  | removeMember (role : String) (p : Principal)
  deriving DecidableEq, Repr

/-- A change that was asked for, and whether it was made. -/
structure Attempt where
  demand : Demand
  succeeded : Bool
  deriving DecidableEq, Repr

/-- The action beside a log, in which it is noted. -/
def Action.recorded {σ α : Type} (demand : Demand) (action : Action σ α) :
    Action (σ × List Attempt) α :=
  ExceptT.mk fun (state, log) =>
    let (result, state') := action.apply state
    (result, state', log ++ [⟨demand, result.isOk⟩])

theorem Action.apply_recorded {σ α : Type} {action : Action σ α} {state state' : σ}
    {result : Except AccessError α} (h : action.apply state = (result, state')) (demand : Demand)
    (log : List Attempt) :
    (action.recorded demand).apply (state, log) =
      (result, state', log ++ [⟨demand, result.isOk⟩]) := by
  have hrecorded : (action.recorded demand).apply (state, log) =
      ((action.apply state).1, (action.apply state).2,
        log ++ [⟨demand, (action.apply state).1.isOk⟩]) := rfl
  rw [hrecorded, h]

namespace RoleBackend

variable {σ : Type}

/-- The store with a log of the changes that it is asked for. -/
def recorded (backend : RoleBackend σ) : RoleBackend (σ × List Attempt) where
  view state := backend.view state.1
  createRole role := (backend.createRole role).recorded (.createRole role)
  recordPrincipal p := (backend.recordPrincipal p).recorded (.recordPrincipal p)
  insertMember role p := (backend.insertMember role p).recorded (.insertMember role p)
  removeMember role p := (backend.removeMember role p).recorded (.removeMember role p)

/-- The state after requests that are served one after the other, whatever comes of them. -/
def after (backend : RoleBackend σ) (state : σ) (requests : List (Thread × Request)) : σ :=
  requests.foldl (fun state r => ((backend.serve r.1 r.2).apply state).2) state

end RoleBackend

/-- Nobody is made a member in the log unless just before it was put on record. -/
def Preceded (log : List Attempt) : Prop :=
  ∀ before role p succeeded after,
    log = before ++ ⟨.insertMember role p, succeeded⟩ :: after →
      ∃ earlier, before = earlier ++ [⟨.recordPrincipal p, true⟩]

theorem preceded_nil : Preceded [] := by
  intro before role p succeeded after h
  simp at h

theorem preceded_of_not_insert {log : List Attempt}
    (h : ∀ attempt ∈ log, ∀ role p, attempt.demand ≠ .insertMember role p) : Preceded log := by
  rintro before role p succeeded after rfl
  exact absurd rfl (h ⟨.insertMember role p, succeeded⟩ (by simp) role p)

theorem preceded_pair (role : String) (p : Principal) (succeeded : Bool) :
    Preceded [⟨.recordPrincipal p, true⟩, ⟨.insertMember role p, succeeded⟩] := by
  intro before role' p' succeeded' after h
  match before, h with
  | [_], h =>
    simp only [List.cons_append, List.nil_append, List.cons.injEq, Attempt.mk.injEq,
      Demand.insertMember.injEq] at h
    obtain ⟨rfl, ⟨⟨-, rfl⟩, -⟩, -⟩ := h
    exact ⟨[], rfl⟩
  | _ :: _ :: _, h => simp at h

theorem Preceded.append {log log' : List Attempt} (h : Preceded log) (h' : Preceded log') :
    Preceded (log ++ log') := by
  intro before role p succeeded after heq
  rcases List.append_eq_append_iff.1 heq with ⟨between, rfl, hlog'⟩ | ⟨between, hlog, hafter⟩
  · obtain ⟨earlier, rfl⟩ := h' between role p succeeded after hlog'
    exact ⟨log ++ earlier, (List.append_assoc ..).symm⟩
  · cases between with
    | nil =>
      obtain ⟨earlier, hnil⟩ := h' [] role p succeeded after (by simpa using hafter.symm)
      cases earlier <;> cases hnil
    | cons attempt between =>
      obtain ⟨rfl, -⟩ := List.cons.inj hafter
      exact h before role p succeeded between hlog

/-! ## Grounds to refuse -/

/-- Why a read failed, if it did. -/
def failure? {α : Type} : Except AccessError α → Option AccessError
  | .error error => some error
  | .ok _ => none

theorem failure?_eq_some_iff {α : Type} {result : Except AccessError α} {error : AccessError} :
    failure? result = some error ↔ result = .error error := by
  cases result <;> simp [failure?]

theorem failure?_eq_none_iff {α : Type} {result : Except AccessError α} :
    failure? result = none ↔ ∃ a, result = .ok a := by
  cases result <;> simp [failure?]

/-- The first ground that applies. -/
def firstGround? (grounds : List (Option AccessError)) : Option AccessError :=
  grounds.findSome? id

namespace AccessView

/-- What can be wrong with the handle for a change, in the order in which it counts. -/
def writingGrounds (view : AccessView) (caller : Thread) : List (Option AccessError) :=
  [if view.closed then some .storeClosed else none,
    if caller ≠ view.owner then some .wrongContext else none,
    if view.inTransaction then none else some .notInTransaction]

/-- What can be wrong with the role of a change, in the order in which it counts. -/
def roleGrounds (view : AccessView) (role : String) : List (Option AccessError) :=
  [failure? (view.findRole role),
    match view.findRole role with
    | .ok none => some (.missingRole role)
    | _ => none]

/-- What can be wrong with a change of members, in the order in which it counts. -/
def memberGrounds (view : AccessView) (caller : Thread) (role principal : String) :
    List (Option AccessError) :=
  view.writingGrounds caller ++ failure? (Principal.parse principal) :: view.roleGrounds role

/-- What can be wrong with a change, in the order in which it counts. Direct changes are not
checked. -/
def grounds (view : AccessView) (caller : Thread) : RoleChange → List (Option AccessError)
  | .addRole _ => view.writingGrounds caller
  | .addMember role principal | .dropMember role principal =>
    view.memberGrounds caller role principal
  | .createRole _ | .recordPrincipal _ | .insertMember .. | .removeMember .. => []

theorem failure?_requireWriting (view : AccessView) (caller : Thread) :
    failure? (view.requireWriting caller) = firstGround? (view.writingGrounds caller) := by
  unfold requireWriting requireUsable writingGrounds
  cases view.closed with
  | true => rfl
  | false =>
    by_cases hcaller : caller = view.owner
    · cases view.inTransaction <;> simp [hcaller, firstGround?, failure?]
    · simp [hcaller, firstGround?, failure?]

theorem failure?_requireRole (view : AccessView) (role : String) :
    failure? (view.requireRole role) = firstGround? (view.roleGrounds role) := by
  unfold requireRole roleGrounds
  rcases view.findRole role with error | _ | found <;> simp [firstGround?, failure?]

theorem firstGround?_memberGrounds (view : AccessView) (caller : Thread)
    (role principal : String) :
    firstGround? (view.memberGrounds caller role principal) =
      (failure? (view.requireWriting caller)).or
        ((failure? (Principal.parse principal)).or (failure? (view.requireRole role))) := by
  rw [failure?_requireWriting, failure?_requireRole, firstGround?, memberGrounds,
    List.findSome?_append, List.findSome?_cons]
  cases failure? (Principal.parse principal) <;> rfl

theorem failure?_requireMemberChange (view : AccessView) (caller : Thread)
    (role principal : String) :
    failure? (view.requireMemberChange caller role principal) =
      firstGround? (view.memberGrounds caller role principal) := by
  rw [firstGround?_memberGrounds, requireMemberChange]
  cases view.requireWriting caller with
  | error error => rfl
  | ok _ =>
    cases Principal.parse principal with
    | error error => rfl
    | ok p => cases view.requireRole role <;> rfl

theorem requireWriting_of_sound {view : AccessView} {caller : Thread}
    (h : firstGround? (view.writingGrounds caller) = none) :
    view.requireWriting caller = .ok () := by
  rw [← failure?_requireWriting] at h
  obtain ⟨_, hcheck⟩ := failure?_eq_none_iff.1 h
  exact hcheck

/-- Where nothing is wrong with a change of members, it goes on with its principal. -/
theorem exists_requireMemberChange {view : AccessView} {caller : Thread} {role principal : String}
    (h : firstGround? (view.memberGrounds caller role principal) = none) :
    ∃ p, p.text = principal ∧ view.requireMemberChange caller role principal = .ok p := by
  rw [← failure?_requireMemberChange] at h
  obtain ⟨p, hcheck⟩ := failure?_eq_none_iff.1 h
  refine ⟨p, ?_, hcheck⟩
  obtain ⟨_, -, hrest⟩ := bind_eq_ok_iff.1 hcheck
  obtain ⟨p', hparse, hrest⟩ := bind_eq_ok_iff.1 hrest
  obtain ⟨_, -, hrest⟩ := bind_eq_ok_iff.1 hrest
  cases hrest
  exact (Principal.parse_eq_ok_iff.1 hparse).symm

theorem requireMemberChange_of_sound {view : AccessView} {caller : Thread} {role : String}
    {p : Principal} (h : firstGround? (view.memberGrounds caller role p.text) = none) :
    view.requireMemberChange caller role p.text = .ok p := by
  obtain ⟨p', htext, hcheck⟩ := exists_requireMemberChange h
  rwa [Principal.ext htext] at hcheck

end AccessView

theorem Principal.parse_eq_error {text : String} {error : AccessError}
    (h : parse text = .error error) : ∃ detail, error = .invalidPrincipal detail := by
  unfold parse at h
  split at h
  · cases h
  · next fault _ =>
    cases Except.error.inj h
    cases fault <;> exact ⟨_, rfl⟩

/-! ## What can come of a request -/

/-- The change is one that is checked before it is asked for. -/
def RoleChange.Checked : RoleChange → Prop
  | .addRole _ | .addMember .. | .dropMember .. => True
  | .createRole _ | .recordPrincipal _ | .insertMember .. | .removeMember .. => False

/-- The request changes nothing, or what it changes is checked before. -/
def Request.Administers : Request → Prop
  | .query _ => True
  | .change c => c.Checked

namespace RoleBackend

variable {σ : Type}

/-- What can come of a checked change in a state: the result, the state after, and what the store
is asked for. -/
inductive Course (backend : RoleBackend σ) (caller : Thread) (state : σ) :
    RoleChange → Except AccessError Reply → σ → List Attempt → Prop where
  | refused {change : RoleChange} {error : AccessError}
      (ground : firstGround? ((backend.view state).grounds caller change) = some error) :
      Course backend caller state change (.error error) state []
  | notCreated {role : String} {error : AccessError} {state' : σ}
      (sound : firstGround? ((backend.view state).grounds caller (.addRole role)) = none)
      (create : (backend.createRole role).apply state = (.error error, state')) :
      Course backend caller state (.addRole role) (.error error) state'
        [⟨.createRole role, false⟩]
  | created {role : String} {role' : Role} {state' : σ}
      (sound : firstGround? ((backend.view state).grounds caller (.addRole role)) = none)
      (create : (backend.createRole role).apply state = (.ok role', state')) :
      Course backend caller state (.addRole role) (.ok (.role role')) state'
        [⟨.createRole role, true⟩]
  | notRecorded {role : String} {p : Principal} {error : AccessError} {state' : σ}
      (sound : firstGround? ((backend.view state).grounds caller (.addMember role p.text)) = none)
      (record : (backend.recordPrincipal p).apply state = (.error error, state')) :
      Course backend caller state (.addMember role p.text) (.error error) state'
        [⟨.recordPrincipal p, false⟩]
  | notInserted {role : String} {p : Principal} {error : AccessError} {between state' : σ}
      (sound : firstGround? ((backend.view state).grounds caller (.addMember role p.text)) = none)
      (record : (backend.recordPrincipal p).apply state = (.ok (), between))
      (insert : (backend.insertMember role p).apply between = (.error error, state')) :
      Course backend caller state (.addMember role p.text) (.error error) state'
        [⟨.recordPrincipal p, true⟩, ⟨.insertMember role p, false⟩]
  | inserted {role : String} {p : Principal} {wasNew : Bool} {between state' : σ}
      (sound : firstGround? ((backend.view state).grounds caller (.addMember role p.text)) = none)
      (record : (backend.recordPrincipal p).apply state = (.ok (), between))
      (insert : (backend.insertMember role p).apply between = (.ok wasNew, state')) :
      Course backend caller state (.addMember role p.text) (.ok .done) state'
        [⟨.recordPrincipal p, true⟩, ⟨.insertMember role p, true⟩]
  | notRemoved {role : String} {p : Principal} {error : AccessError} {state' : σ}
      (sound : firstGround? ((backend.view state).grounds caller (.dropMember role p.text)) = none)
      (remove : (backend.removeMember role p).apply state = (.error error, state')) :
      Course backend caller state (.dropMember role p.text) (.error error) state'
        [⟨.removeMember role p, false⟩]
  | removed {role : String} {p : Principal} {wasMember : Bool} {state' : σ}
      (sound : firstGround? ((backend.view state).grounds caller (.dropMember role p.text)) = none)
      (remove : (backend.removeMember role p).apply state = (.ok wasMember, state')) :
      Course backend caller state (.dropMember role p.text) (.ok (.flag wasMember)) state'
        [⟨.removeMember role p, true⟩]

variable {backend : RoleBackend σ} {caller : Thread} {state state' : σ} {change : RoleChange}
  {result : Except AccessError Reply} {attempts : List Attempt}

theorem Course.preceded (h : backend.Course caller state change result state' attempts) :
    Preceded attempts := by
  cases h with
  | refused | notCreated | created | notRecorded | notRemoved | removed =>
    exact preceded_of_not_insert (by simp)
  | notInserted | inserted => exact preceded_pair _ _ _

/-! ## Steps -/

/-- A course with the log takes the course without it, and the log notes the attempts. -/
theorem Course.recorded (h : backend.Course caller state change result state' attempts)
    (log : List Attempt) :
    backend.recorded.Course caller (state, log) change result (state', log ++ attempts)
      attempts := by
  cases h with
  | refused ground =>
    rw [List.append_nil]
    exact .refused ground
  | notCreated sound create => exact .notCreated sound (Action.apply_recorded create _ log)
  | created sound create => exact .created sound (Action.apply_recorded create _ log)
  | notRecorded sound record => exact .notRecorded sound (Action.apply_recorded record _ log)
  | notInserted sound record insert =>
    rw [List.append_cons]
    exact .notInserted sound (Action.apply_recorded record _ log)
      (Action.apply_recorded insert _ _)
  | inserted sound record insert =>
    rw [List.append_cons]
    exact .inserted sound (Action.apply_recorded record _ log) (Action.apply_recorded insert _ _)
  | notRemoved sound remove => exact .notRemoved sound (Action.apply_recorded remove _ log)
  | removed sound remove => exact .removed sound (Action.apply_recorded remove _ log)

theorem apply_addRole (backend : RoleBackend σ) (caller : Thread) (role : String) (state : σ) :
    (backend.change caller (.addRole role)).apply state =
      match (backend.view state).requireWriting caller with
      | .error error => (.error error, state)
      | .ok _ => (Reply.role <$> backend.createRole role).apply state := by
  simp only [map_eq_pure_bind]
  cases h : (backend.view state).requireWriting caller <;>
    simp [RoleBackend.change, addRole, Action.apply_bind, h]

theorem apply_addMember (backend : RoleBackend σ) (caller : Thread) (role principal : String)
    (state : σ) :
    (backend.change caller (.addMember role principal)).apply state =
      match (backend.view state).requireMemberChange caller role principal with
      | .error error => (.error error, state)
      | .ok p => (do
          backend.recordPrincipal p
          let _ ← backend.insertMember role p
          return Reply.done).apply state := by
  cases h : (backend.view state).requireMemberChange caller role principal <;>
    simp [RoleBackend.change, addMember, Action.apply_bind, h]

theorem apply_dropMember (backend : RoleBackend σ) (caller : Thread) (role principal : String)
    (state : σ) :
    (backend.change caller (.dropMember role principal)).apply state =
      match (backend.view state).requireMemberChange caller role principal with
      | .error error => (.error error, state)
      | .ok p => (Reply.flag <$> backend.removeMember role p).apply state := by
  simp only [map_eq_pure_bind]
  cases h : (backend.view state).requireMemberChange caller role principal <;>
    simp [RoleBackend.change, dropMember, Action.apply_bind, h]

/-- A change comes to what its course says. -/
theorem Course.apply_eq (h : backend.Course caller state change result state' attempts) :
    (backend.change caller change).apply state = (result, state') := by
  cases h with
  | refused ground =>
    cases change with
    | addRole role =>
      have hcheck := ((backend.view state).failure?_requireWriting caller).trans ground
      rw [apply_addRole, failure?_eq_some_iff.1 hcheck]
    | addMember role principal =>
      have hcheck :=
        ((backend.view state).failure?_requireMemberChange caller role principal).trans ground
      rw [apply_addMember, failure?_eq_some_iff.1 hcheck]
    | dropMember role principal =>
      have hcheck :=
        ((backend.view state).failure?_requireMemberChange caller role principal).trans ground
      rw [apply_dropMember, failure?_eq_some_iff.1 hcheck]
    | createRole | recordPrincipal | insertMember | removeMember => cases ground
  | notCreated sound create | created sound create =>
    rw [apply_addRole, AccessView.requireWriting_of_sound sound]
    simp [create]
  | notRecorded sound record =>
    rw [apply_addMember, AccessView.requireMemberChange_of_sound sound]
    exact Action.apply_bind_of_error record _
  | notInserted sound record insert =>
    rw [apply_addMember, AccessView.requireMemberChange_of_sound sound]
    exact (Action.apply_bind_of_ok record _).trans (Action.apply_bind_of_error insert _)
  | inserted sound record insert =>
    rw [apply_addMember, AccessView.requireMemberChange_of_sound sound]
    exact (Action.apply_bind_of_ok record _).trans (Action.apply_bind_of_ok insert _)
  | notRemoved sound remove | removed sound remove =>
    rw [apply_dropMember, AccessView.requireMemberChange_of_sound sound]
    simp [remove]

/-- Every checked change takes one of the courses. -/
theorem exists_course (backend : RoleBackend σ) (caller : Thread) (state : σ)
    (hchecked : change.Checked) :
    ∃ result state' attempts, backend.Course caller state change result state' attempts := by
  cases hground : firstGround? ((backend.view state).grounds caller change) with
  | some error => exact ⟨_, _, _, .refused hground⟩
  | none =>
    cases change with
    | addRole role =>
      rcases hcreate : (backend.createRole role).apply state with ⟨error | role', state'⟩
      · exact ⟨_, _, _, .notCreated hground hcreate⟩
      · exact ⟨_, _, _, .created hground hcreate⟩
    | addMember role principal =>
      obtain ⟨p, rfl, -⟩ := AccessView.exists_requireMemberChange hground
      rcases hrecord : (backend.recordPrincipal p).apply state with ⟨error | _, between⟩
      · exact ⟨_, _, _, .notRecorded hground hrecord⟩
      · rcases hinsert : (backend.insertMember role p).apply between with ⟨error | wasNew, state'⟩
        · exact ⟨_, _, _, .notInserted hground hrecord hinsert⟩
        · exact ⟨_, _, _, .inserted hground hrecord hinsert⟩
    | dropMember role principal =>
      obtain ⟨p, rfl, -⟩ := AccessView.exists_requireMemberChange hground
      rcases hremove : (backend.removeMember role p).apply state with ⟨error | wasMember, state'⟩
      · exact ⟨_, _, _, .notRemoved hground hremove⟩
      · exact ⟨_, _, _, .removed hground hremove⟩
    | createRole | recordPrincipal | insertMember | removeMember => exact hchecked.elim

/-! ## Requests -/

/-- Apart from whether a transaction is active, nothing that is asked depends on one. -/
theorem reply_inTransaction (view : AccessView) (caller : Thread) {query : Query}
    (h : query ≠ .inTransaction) (flag : Bool) :
    AccessView.reply { view with inTransaction := flag } caller query =
      view.reply caller query := by
  cases query with
  | inTransaction => exact absurd rfl h
  | _ => rfl

/-- A request is served with the log as without it, and keeps the log in order. -/
theorem exists_serve_recorded (backend : RoleBackend σ) (caller : Thread) (state : σ)
    (log : List Attempt) {request : Request} (h : request.Administers) :
    ∃ attempts, Preceded attempts ∧
      ((backend.recorded.serve caller request).apply (state, log)).2 =
        (((backend.serve caller request).apply state).2, log ++ attempts) := by
  cases request with
  | query query => exact ⟨[], preceded_nil, by rw [List.append_nil]; rfl⟩
  | change change =>
    obtain ⟨result, state', attempts, hcourse⟩ := backend.exists_course caller state h
    refine ⟨attempts, hcourse.preceded, ?_⟩
    rw [serve, serve, hcourse.apply_eq, (hcourse.recorded log).apply_eq]

theorem after_cons (backend : RoleBackend σ) (state : σ) (request : Thread × Request)
    (requests : List (Thread × Request)) :
    backend.after state (request :: requests) =
      backend.after ((backend.serve request.1 request.2).apply state).2 requests := rfl

/-- Requests are served with the log as without it, and keep the log in order. -/
theorem exists_after_recorded (backend : RoleBackend σ) (state : σ) (log : List Attempt)
    {requests : List (Thread × Request)} (h : ∀ request ∈ requests, request.2.Administers) :
    ∃ attempts, Preceded attempts ∧
      backend.recorded.after (state, log) requests =
        (backend.after state requests, log ++ attempts) := by
  induction requests generalizing state log with
  | nil => exact ⟨[], preceded_nil, by rw [List.append_nil]; rfl⟩
  | cons request requests ih =>
    obtain ⟨hrequest, hrequests⟩ := List.forall_mem_cons.1 h
    obtain ⟨first, hfirst, hserve⟩ := backend.exists_serve_recorded request.1 state log hrequest
    obtain ⟨later, hlater, hafter⟩ :=
      ih ((backend.serve request.1 request.2).apply state).2 (log ++ first) hrequests
    refine ⟨first ++ later, hfirst.append hlater, ?_⟩
    rw [after_cons, after_cons, hserve, hafter, List.append_assoc]

/-- Administering roles checks before it changes:

* a checked change takes one of the courses, with the log as without it, and the log notes just
  what the course asks for;
* nothing that is asked asks for a change, and only whether a transaction is active depends on
  that;
* over any requests that administer roles, nobody is made a member unless just before they were
  put on record;
* a text that is no identifier is refused as such. -/
theorem checked_before_changed (backend : RoleBackend σ) (state : σ) (log : List Attempt) :
    (∀ caller change, change.Checked → ∃ result state' attempts,
      backend.Course caller state change result state' attempts ∧
      (backend.change caller change).apply state = (result, state') ∧
      (backend.recorded.change caller change).apply (state, log) =
        (result, state', log ++ attempts)) ∧
    (∀ caller query,
      (backend.recorded.serve caller (.query query)).apply (state, log) =
        ((backend.view state).reply caller query, state, log) ∧
      (query ≠ .inTransaction → ∀ flag,
        AccessView.reply { backend.view state with inTransaction := flag } caller query =
          (backend.view state).reply caller query)) ∧
    (∀ requests : List (Thread × Request), (∀ request ∈ requests, request.2.Administers) →
      (backend.recorded.after (state, log) requests).1 = backend.after state requests ∧
      (Preceded log → Preceded (backend.recorded.after (state, log) requests).2)) ∧
    ∀ text error, Principal.parse text = .error error →
      ∃ detail, error = .invalidPrincipal detail := by
  refine ⟨fun caller change hchecked => ?_, fun caller query => ⟨rfl, fun hquery flag => ?_⟩,
    fun requests hrequests => ?_, fun text error hparse => Principal.parse_eq_error hparse⟩
  · obtain ⟨result, state', attempts, hcourse⟩ := backend.exists_course caller state hchecked
    exact ⟨result, state', attempts, hcourse, hcourse.apply_eq, (hcourse.recorded log).apply_eq⟩
  · exact reply_inTransaction _ caller hquery flag
  · obtain ⟨attempts, hattempts, hafter⟩ := backend.exists_after_recorded state log hrequests
    rw [hafter]
    exact ⟨rfl, fun hlog => hlog.append hattempts⟩

/-- A store whose members cannot be written down, asked to add a member by a text that is no
identifier, from another thread, and as it should be. -/
theorem checked_before_changed_failing_members :
    let ada : Principal := ⟨"ada", by decide⟩
    let backend : RoleBackend (SortedSet Principal) := {
      view := fun _ => {
        hasClass := fun _ => .ok false
        classNames := .ok []
        realmGrants := .ok default
        classGrants := fun _ => .ok none
        objectGrants := fun _ => .ok .empty
        findRole := fun role => .ok (if role = "editors" then some ⟨"editors", .empty⟩ else none)
        storeId := ⟨1⟩
        principal := ada
        closed := false
        owner := ⟨0⟩
        inTransaction := true
        containsObject := fun _ => .ok false
        listRoles := .ok [⟨"editors", .empty⟩] }
      createRole := fun role => throw (.existingRole role)
      recordPrincipal := fun p => modify (·.insert p)
      insertMember := fun role _ => throw (.vanishedRole role)
      removeMember := fun _ _ => pure false }
    let requests : List (Thread × Request) :=
      [(⟨0⟩, .change (.addMember "editors" "a b")), (⟨1⟩, .change (.addMember "editors" "ada")),
        (⟨0⟩, .change (.addMember "editors" "ada"))]
    (RoleChange.addMember "editors" "ada").Checked ∧
      (∃ result state' attempts,
        backend.Course ⟨0⟩ .empty (.addMember "editors" "ada") result state' attempts ∧
        result = .error (.vanishedRole "editors") ∧ state'.contains ada = true) ∧
      (∀ request ∈ requests, request.2.Administers) ∧
      (backend.recorded.after (.empty, []) requests).2 =
        [⟨.recordPrincipal ada, true⟩, ⟨.insertMember "editors" ada, false⟩] ∧
      (backend.recorded.after (.empty, []) requests).1 = backend.after .empty requests ∧
      Preceded (backend.recorded.after (.empty, []) requests).2 ∧
      ∃ error detail, Principal.parse "a b" = .error error ∧ error = .invalidPrincipal detail := by
  intro ada backend requests
  have hrequests : ∀ request ∈ requests, request.2.Administers := by
    simp [requests, Request.Administers, RoleChange.Checked]
  obtain ⟨hchanges, -, hlog, hparse⟩ := checked_before_changed backend .empty []
  obtain ⟨result, state', attempts, hcourse, hplain, -⟩ :=
    hchanges ⟨0⟩ (.addMember "editors" "ada") trivial
  obtain ⟨hstate, hordered⟩ := hlog requests hrequests
  have hrun : (backend.change ⟨0⟩ (.addMember "editors" "ada")).apply .empty =
      (.error (.vanishedRole "editors"), .insert .empty ada) := by rfl
  obtain ⟨rfl, rfl⟩ := Prod.mk.inj (hplain.symm.trans hrun)
  have hblank : Principal.parse "a b" = .error (Principal.Fault.unclear.error "a b") := by rfl
  obtain ⟨detail, hdetail⟩ := hparse _ _ hblank
  exact ⟨trivial, ⟨_, _, _, hcourse, rfl, by decide⟩, hrequests, by rfl, hstate,
    hordered preceded_nil, _, detail, hblank, hdetail⟩

end RoleBackend

end StoreAccess
