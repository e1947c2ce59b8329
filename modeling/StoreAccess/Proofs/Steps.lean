import StoreAccess.Membership

/-!
# Steps that may fail

What a result that may fail was made of: `bind_eq_ok_iff` and `bind_eq_error_iff` take one step
off it. For actions on a state, the outcome and the state after each way to build an action, and
`Achieves`, that an action succeeds just under a condition, with the rule for loops.
-/

namespace StoreAccess

section Results

variable {α β : Type} {x : Except AccessError α} {f : α → Except AccessError β}

@[simp] theorem pure_eq_ok (a : α) : (pure a : Except AccessError α) = .ok a := rfl

@[simp] theorem throw_eq_error (error : AccessError) :
    (throw error : Except AccessError α) = .error error := rfl

@[simp] theorem ok_bind (a : α) : (Except.ok a >>= f) = f a := rfl

@[simp] theorem error_bind (error : AccessError) : (Except.error error >>= f) = .error error := rfl

@[simp] theorem ok_map (g : α → β) (a : α) :
    g <$> (Except.ok a : Except AccessError α) = .ok (g a) := rfl

@[simp] theorem error_map (g : α → β) (error : AccessError) :
    g <$> (Except.error error : Except AccessError α) = .error error := rfl

theorem bind_eq_ok_iff {b : β} : x >>= f = .ok b ↔ ∃ a, x = .ok a ∧ f a = .ok b := by
  cases x with
  | error error => simp
  | ok a => simp

theorem bind_eq_error_iff {error : AccessError} :
    x >>= f = .error error ↔ x = .error error ∨ ∃ a, x = .ok a ∧ f a = .error error := by
  cases x with
  | error error => simp
  | ok a => simp

theorem map_eq_ok_iff {g : α → β} {b : β} : g <$> x = .ok b ↔ ∃ a, x = .ok a ∧ g a = b := by
  cases x with
  | error error => simp
  | ok a => simp

theorem mapM_cons_eq_ok_iff {a : α} {as : List α} {bs : List β} :
    (a :: as).mapM f = .ok bs ↔
      ∃ b bs', f a = .ok b ∧ as.mapM f = .ok bs' ∧ bs = b :: bs' := by
  rw [List.mapM_cons, bind_eq_ok_iff]
  refine exists_congr fun b => ?_
  rw [bind_eq_ok_iff]
  simp [eq_comm]

theorem mapM_eq_ok_map {as : List α} {g : α → β} (h : ∀ a ∈ as, f a = .ok (g a)) :
    as.mapM f = .ok (as.map g) := by
  induction as with
  | nil => rfl
  | cons a as ih =>
    obtain ⟨ha, has⟩ := List.forall_mem_cons.1 h
    exact mapM_cons_eq_ok_iff.2 ⟨g a, as.map g, ha, ih has, rfl⟩

/-- The first failure is that of a list. -/
theorem mapM_eq_error {as : List α} {error : AccessError} (h : as.mapM f = .error error) :
    ∃ a ∈ as, f a = .error error := by
  induction as with
  | nil => cases h
  | cons a as ih =>
    rw [List.mapM_cons] at h
    rcases bind_eq_error_iff.1 h with h | ⟨b, -, h⟩
    · exact ⟨a, List.mem_cons_self, h⟩
    · rcases bind_eq_error_iff.1 h with h | ⟨bs, -, h⟩
      · obtain ⟨a', ha', h⟩ := ih h
        exact ⟨a', List.mem_cons_of_mem _ ha', h⟩
      · cases h

theorem exists_mapM_eq_ok_iff {as : List α} :
    (∃ bs, as.mapM f = .ok bs) ↔ ∀ a ∈ as, ∃ b, f a = .ok b := by
  induction as with
  | nil => exact ⟨fun _ => by simp, fun _ => ⟨[], rfl⟩⟩
  | cons a as ih =>
    rw [List.forall_mem_cons, ← ih]
    constructor
    · rintro ⟨bs, hbs⟩
      obtain ⟨b, bs', hb, hbs', rfl⟩ := mapM_cons_eq_ok_iff.1 hbs
      exact ⟨⟨b, hb⟩, bs', hbs'⟩
    · rintro ⟨⟨b, hb⟩, bs, hbs⟩
      exact ⟨b :: bs, mapM_cons_eq_ok_iff.2 ⟨b, bs, hb, hbs, rfl⟩⟩

end Results

namespace Action

variable {σ α β : Type}

@[simp] theorem apply_pure (a : α) (state : σ) :
    (pure a : Action σ α).apply state = (.ok a, state) := rfl

@[simp] theorem apply_throw (error : AccessError) (state : σ) :
    (throw error : Action σ α).apply state = (.error error, state) := rfl

@[simp] theorem apply_liftM (result : Except AccessError α) (state : σ) :
    (liftM result : Action σ α).apply state = (result, state) := rfl

@[simp] theorem apply_set (state state' : σ) :
    (set state' : Action σ PUnit).apply state = (.ok ⟨⟩, state') := rfl

@[simp] theorem apply_modify (f : σ → σ) (state : σ) :
    (modify f : Action σ PUnit).apply state = (.ok ⟨⟩, f state) := rfl

@[simp] theorem apply_get (state : σ) : (get : Action σ σ).apply state = (.ok state, state) := rfl

@[simp] theorem apply_map (f : α → β) (action : Action σ α) (state : σ) :
    (f <$> action).apply state = (f <$> (action.apply state).1, (action.apply state).2) := by
  rw [map_eq_pure_bind, apply_bind]
  rcases action.apply state with ⟨error | a, state'⟩ <;> rfl

theorem apply_bind_of_ok {action : Action σ α} {state state' : σ} {a : α}
    (h : action.apply state = (.ok a, state')) (f : α → Action σ β) :
    (action >>= f).apply state = (f a).apply state' := by
  rw [apply_bind, h]

theorem apply_bind_of_error {action : Action σ α} {state state' : σ} {error : AccessError}
    (h : action.apply state = (.error error, state')) (f : α → Action σ β) :
    (action >>= f).apply state = (.error error, state') := by
  rw [apply_bind, h]

theorem apply_bind_eq_ok_iff {action : Action σ α} {f : α → Action σ β} {state state' : σ} {b : β} :
    (action >>= f).apply state = (.ok b, state') ↔
      ∃ a between, action.apply state = (.ok a, between) ∧
        (f a).apply between = (.ok b, state') := by
  rw [apply_bind]
  rcases action.apply state with ⟨error | a, between⟩
  · simp
  · constructor
    · exact fun h => ⟨a, between, rfl, h⟩
    · rintro ⟨_, _, ⟨⟩, h⟩
      exact h

theorem apply_lift_bind_eq_ok_iff {result : Except AccessError α} {f : α → Action σ β}
    {state state' : σ} {b : β} :
    (liftM result >>= f).apply state = (.ok b, state') ↔
      ∃ a, result = .ok a ∧ (f a).apply state = (.ok b, state') := by
  cases result with
  | error error => simp [apply_bind]
  | ok a => simp [apply_bind]

theorem apply_return_eq_ok_iff {action : Action σ α} {f : α → β} {state state' : σ} {b : β} :
    (action >>= fun a => pure (f a)).apply state = (.ok b, state') ↔
      ∃ a, action.apply state = (.ok a, state') ∧ f a = b := by
  rw [apply_bind]
  rcases action.apply state with ⟨error | a, between⟩
  · simp
  · constructor
    · intro h
      obtain ⟨hb, hstate⟩ := Prod.mk.inj h
      exact ⟨a, by rw [hstate], Except.ok.inj hb⟩
    · rintro ⟨_, ⟨⟩, rfl⟩
      rfl

theorem apply_ofChange_of_ok {change : Change σ α} {state state' : σ} {a : α}
    (h : change.run state = .ok (a, state')) : (ofChange change).apply state = (.ok a, state') := by
  have h : change state = .ok (a, state') := h
  rw [apply_ofChange, h]

theorem apply_ofChange_of_error {change : Change σ α} {state : σ} {error : AccessError}
    (h : change.run state = .error error) :
    (ofChange change).apply state = (.error error, state) := by
  have h : change state = .error error := h
  rw [apply_ofChange, h]

/-! ## Actions that succeed just under a condition -/

/-- The action succeeds if the condition holds, and only then, and leaves such a state. -/
structure Achieves (action : Action σ PUnit) (state : σ) (condition : Prop) (After : σ → Prop) :
    Prop where
  succeeds : condition → ∃ state', action.apply state = (.ok ⟨⟩, state') ∧ After state'
  fails : ¬ condition → ∃ error state', action.apply state = (.error error, state')

section Achieves

variable {action : Action σ PUnit} {state : σ} {P Q : Prop} {After After' : σ → Prop}

theorem Achieves.imp (h : action.Achieves state P After) (hPQ : P ↔ Q)
    (hafter : ∀ state', After state' → After' state') : action.Achieves state Q After' := by
  refine ⟨fun hQ => ?_, fun hQ => h.fails fun hP => hQ (hPQ.1 hP)⟩
  obtain ⟨state', hrun, hstate'⟩ := h.succeeds (hPQ.2 hQ)
  exact ⟨state', hrun, hafter state' hstate'⟩

theorem Achieves.bind {next : PUnit → Action σ PUnit} (h : action.Achieves state P After)
    (hnext : ∀ state', After state' → (next ⟨⟩).Achieves state' Q After') :
    (action >>= next).Achieves state (P ∧ Q) After' := by
  constructor
  · rintro ⟨hP, hQ⟩
    obtain ⟨state', hrun, hstate'⟩ := h.succeeds hP
    rw [apply_bind_of_ok hrun]
    exact (hnext state' hstate').succeeds hQ
  · intro hnot
    by_cases hP : P
    · obtain ⟨state', hrun, hstate'⟩ := h.succeeds hP
      rw [apply_bind_of_ok hrun]
      exact (hnext state' hstate').fails fun hQ => hnot ⟨hP, hQ⟩
    · obtain ⟨error, state', hrun⟩ := h.fails hP
      exact ⟨error, state', apply_bind_of_error hrun next⟩

/-- A loop over a list, in which what holds after a turn depends on the turns so far. -/
theorem achieves_forM {f : α → Action σ PUnit} {Good : α → Prop} (After : List α → σ → Prop)
    (hturn : ∀ done a state, After done state →
      (f a).Achieves state (Good a) (After (done ++ [a])))
    {done : List α} (hstart : After done state) (as : List α) :
    (as.forM f).Achieves state (∀ a ∈ as, Good a) (After (done ++ as)) := by
  induction as generalizing done state with
  | nil => exact ⟨fun _ => ⟨state, rfl, by rwa [List.append_nil]⟩, fun h => absurd (by simp) h⟩
  | cons a as ih =>
    have hloop : (f a >>= fun _ => as.forM f).Achieves state (Good a ∧ ∀ a ∈ as, Good a)
        (After (done ++ [a] ++ as)) :=
      (hturn done a state hstart).bind fun _ hstate' => ih hstate'
    exact hloop.imp List.forall_mem_cons.symm fun state' hstate' => by simpa using hstate'

/-- An action is known by what it comes to with an answer after it. -/
theorem achieves_of_return {b : β}
    (hok : P → ∃ state', (action >>= fun _ => pure b).apply state = (.ok b, state') ∧ After state')
    (herror : ¬ P → ∃ error state',
      (action >>= fun _ => pure b).apply state = (.error error, state')) :
    action.Achieves state P After := by
  constructor
  · intro hP
    obtain ⟨state', hrun, hstate'⟩ := hok hP
    obtain ⟨_, hrun, -⟩ := apply_return_eq_ok_iff.1 hrun
    exact ⟨state', hrun, hstate'⟩
  · intro hP
    obtain ⟨error, state', hrun⟩ := herror hP
    rw [apply_bind] at hrun
    rcases haction : action.apply state with ⟨error' | _, state''⟩
    · exact ⟨error', state'', rfl⟩
    · rw [haction] at hrun
      cases hrun

end Achieves

end Action

@[simp] theorem RoleBackend.apply_ask {σ α : Type} (backend : RoleBackend σ)
    (question : AccessView → Except AccessError α) (state : σ) :
    (backend.ask question).apply state = (question (backend.view state), state) := rfl

end StoreAccess
