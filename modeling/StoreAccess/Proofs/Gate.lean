import StoreAccess.Gate
import StoreAccess.Proofs.Resolution

/-!
# What the gate answers

There are ten grounds to refuse a request for privileges, and many of them may apply at once. The
gate checks them here and there, partly in what a class and an object request share and once more
in the resolution behind it. `Ground` puts them in one order, `Applies` says when each does and
with which error, and `gate_order` that the answer goes by the first that applies:

* a request is refused for that ground, and one to which no ground applies gets what the
  resolution gives at its scope;
* so the errors about scopes and principals only come out of reads that fail, and privileges are
  given only where no ground to refuse applies.
-/

namespace StoreAccess

/-! ## Requests for privileges -/

/-- A request for the privileges of the principal of the handle. -/
inductive Ask where
  | store
  | ofClass (target : ClassTarget)
  | object (target : ObjectTarget)

namespace Ask

def object? : Ask → Option ObjectRef
  | store | ofClass _ => none
  | object target => target.object?

/-- The class that is asked about, itself or with an object of it. -/
def className? : Ask → Option String
  | store => none
  | ofClass target => target.className?
  | object target => target.object?.map (·.className)

/-- The scope that is asked about, if the request does not leave it open. -/
def scope? : Ask → Option Scope
  | store => some .store
  | ofClass target => target.className?.map .ofClass
  | object target => target.object?.map .object

end Ask

/-- The class of the scope, or of the object there. -/
def Scope.className? : Scope → Option String
  | store => none
  | ofClass className => some className
  | object reference => some reference.className

theorem Ask.className?_eq_of_scope? {ask : Ask} {scope : Scope} (h : ask.scope? = some scope) :
    ask.className? = scope.className? := by
  cases ask with
  | store =>
    cases h
    rfl
  | ofClass target =>
    obtain ⟨className, hname, rfl⟩ := Option.map_eq_some_iff.1 h
    exact hname
  | object target =>
    obtain ⟨object, hobject, rfl⟩ := Option.map_eq_some_iff.1 h
    rw [className?, hobject, Option.map_some, Scope.className?]

/-! ## Grounds to refuse -/

inductive Ground where
  | closed
  | otherThread
  | noReference
  | noClassName
  | classUnread
  | unknownClass
  | unmanaged
  | foreign
  | objectUnread
  | notContained
  deriving DecidableEq, Repr

namespace Ground

/-- The place of a ground in the order, from zero. -/
def position : Ground → Nat
  | closed => 0
  | otherThread => 1
  | noReference => 2
  | noClassName => 3
  | classUnread => 4
  | unknownClass => 5
  | unmanaged => 6
  | foreign => 7
  | objectUnread => 8
  | notContained => 9

/-- The place after all grounds. -/
def last : Nat := 10

theorem position_lt (ground : Ground) : ground.position < last := by cases ground <;> decide

theorem position_injective {ground ground' : Ground} (h : ground.position = ground'.position) :
    ground = ground' := by
  cases ground <;> cases ground' <;> first | rfl | cases h

end Ground

namespace AccessView

variable {view : AccessView} {caller : Thread} {ask : Ask}

/-- The answer to a request. -/
def answer (view : AccessView) (caller : Thread) : Ask → Except AccessError Privileges
  | .store => view.storePrivileges caller
  | .ofClass target => view.classPrivileges caller target
  | .object target => view.objectPrivileges caller target

/-- The ground applies to the request, and the error is what it is refused with. -/
def Applies (view : AccessView) (caller : Thread) (ask : Ask) : Ground → AccessError → Prop
  | .closed, error => view.closed = true ∧ error = .storeClosed
  | .otherThread, error => caller ≠ view.owner ∧ error = .wrongContext
  | .noReference, error =>
    (∃ target, ask = .object target ∧ target.object? = none) ∧ error = .missingObject
  | .noClassName, error =>
    (ask ≠ .store ∧ ∀ className ∈ ask.className?, Text.isBlank className = true) ∧
      error = .missingClassName
  | .classUnread, error =>
    ∃ className ∈ ask.className?, view.hasClass className = .error error
  | .unknownClass, error =>
    ∃ className ∈ ask.className?, view.hasClass className = .ok false ∧
      error = .unknownType className
  | .unmanaged, error =>
    (∃ object ∈ ask.object?, object.storeId = none) ∧ error = .unmanagedObject
  | .foreign, error =>
    (∃ object ∈ ask.object?, ∃ owner ∈ object.storeId, owner ≠ view.storeId) ∧
      error = .crossStoreReference
  | .objectUnread, error => ∃ object ∈ ask.object?, view.containsObject object = .error error
  | .notContained, error =>
    (∃ object ∈ ask.object?, view.containsObject object = .ok false) ∧ error = .unmanagedObject

/-- No ground before the place applies to the request. -/
def NoneBefore (view : AccessView) (caller : Thread) (ask : Ask) (place : Nat) : Prop :=
  ∀ ground error, view.Applies caller ask ground error → place ≤ ground.position

/-- The ground is the first that applies to the request. -/
structure First (view : AccessView) (caller : Thread) (ask : Ask) (ground : Ground)
    (error : AccessError) : Prop where
  applies : view.Applies caller ask ground error
  noneBefore : view.NoneBefore caller ask ground.position

theorem Applies.error_eq {ground : Ground} {error error' : AccessError}
    (h : view.Applies caller ask ground error) (h' : view.Applies caller ask ground error') :
    error = error' := by
  cases ground with
  | closed | otherThread | noReference | noClassName | unmanaged | foreign | notContained =>
    exact h.2.trans h'.2.symm
  | classUnread =>
    obtain ⟨className, hname, hclass⟩ := h
    obtain ⟨_, hname', hclass'⟩ := h'
    rw [Option.mem_unique hname' hname, hclass] at hclass'
    exact Except.error.inj hclass'
  | unknownClass =>
    obtain ⟨className, hname, -, rfl⟩ := h
    obtain ⟨_, hname', -, rfl⟩ := h'
    rw [Option.mem_unique hname' hname]
  | objectUnread =>
    obtain ⟨object, hobject, hcontains⟩ := h
    obtain ⟨_, hobject', hcontains'⟩ := h'
    rw [Option.mem_unique hobject' hobject, hcontains] at hcontains'
    exact Except.error.inj hcontains'

theorem First.error_eq {ground ground' : Ground} {error error' : AccessError}
    (h : view.First caller ask ground error) (h' : view.First caller ask ground' error') :
    error = error' := by
  have hground : ground = ground' := Ground.position_injective
    (Nat.le_antisymm (h.noneBefore _ _ h'.applies) (h'.noneBefore _ _ h.applies))
  subst hground
  exact h.applies.error_eq h'.applies

theorem NoneBefore.next (ground : Ground) (h : view.NoneBefore caller ask ground.position)
    (hground : ∀ error, ¬ view.Applies caller ask ground error) :
    view.NoneBefore caller ask (ground.position + 1) := fun other error happlies =>
  Nat.lt_of_le_of_ne (h other error happlies) fun hplace =>
    hground error (Ground.position_injective hplace ▸ happlies)

/-- Without an object there is nothing more to refuse once the class is accepted. -/
theorem NoneBefore.of_object?_eq_none
    (h : view.NoneBefore caller ask Ground.unmanaged.position) (hnone : ask.object? = none) :
    view.NoneBefore caller ask Ground.last := by
  intro ground error happlies
  have hplace := h ground error happlies
  cases ground with
  | closed | otherThread | noReference | noClassName | classUnread | unknownClass =>
    exact absurd hplace (by decide)
  | unmanaged | foreign | notContained =>
    obtain ⟨⟨object, hobject, -⟩, -⟩ := happlies
    rw [hnone] at hobject
    cases hobject
  | objectUnread =>
    obtain ⟨object, hobject, -⟩ := happlies
    rw [hnone] at hobject
    cases hobject

/-! ## The checks -/

/-- A check fails for the first ground that applies, or it passes and no ground before the place
applies. -/
def Screens {α : Type} (view : AccessView) (caller : Thread) (ask : Ask) (place : Nat) :
    Except AccessError α → Prop
  | .error error => ∃ ground, view.First caller ask ground error
  | .ok _ => view.NoneBefore caller ask place

section Checks

variable {α β : Type}

theorem Screens.bind {place place' : Nat} {check : Except AccessError α}
    {next : α → Except AccessError β} (h : view.Screens caller ask place check)
    (hnext : ∀ a, view.NoneBefore caller ask place → view.Screens caller ask place' (next a)) :
    view.Screens caller ask place' (check >>= next) := by
  cases check with
  | error error => exact h
  | ok a => exact hnext a h

/-- A check of a condition that is just when a ground applies. -/
theorem NoneBefore.screens_check (ground : Ground) {place : Nat} {p : Prop} [Decidable p]
    {error : AccessError} {next : Except AccessError α}
    (h : view.NoneBefore caller ask ground.position)
    (hground : ∀ other, view.Applies caller ask ground other ↔ p ∧ other = error)
    (hnext : view.NoneBefore caller ask (ground.position + 1) →
      view.Screens caller ask place next) :
    view.Screens caller ask place (if p then .error error else next) := by
  by_cases hp : p
  · rw [if_pos hp]
    exact ⟨ground, (hground error).2 ⟨hp, rfl⟩, h⟩
  · rw [if_neg hp]
    exact hnext (h.next ground fun other happlies => hp ((hground other).1 happlies).1)

/-- A check that reads whether something is so: one ground applies if that is not read, and the
next if it is not so. -/
theorem NoneBefore.screens_read (unread refused : Ground) {read : Except AccessError Bool}
    {error : AccessError} {a : α} (h : view.NoneBefore caller ask unread.position)
    (hplace : refused.position = unread.position + 1)
    (hunread : ∀ other, view.Applies caller ask unread other ↔ read = .error other)
    (hrefused : ∀ other, view.Applies caller ask refused other ↔
      read = .ok false ∧ other = error) :
    view.Screens caller ask (refused.position + 1)
      (do if ← read then return a else throw error) := by
  rcases hread : read with other | answer
  · exact ⟨unread, (hunread other).2 hread, h⟩
  · have hrefusing : view.NoneBefore caller ask refused.position := by
      rw [hplace]
      exact h.next unread fun other happlies => by
        simpa [hread] using (hunread other).1 happlies
    cases answer with
    | false => exact ⟨refused, (hrefused error).2 ⟨hread, rfl⟩, hrefusing⟩
    | true =>
      exact hrefusing.next refused fun other happlies => by
        simpa [hread] using ((hrefused other).1 happlies).1

theorem screens_requireUsable (view : AccessView) (caller : Thread) (ask : Ask) :
    view.Screens caller ask Ground.noReference.position (view.requireUsable caller) := by
  have hstart : view.NoneBefore caller ask Ground.closed.position := fun _ _ _ => Nat.zero_le _
  refine hstart.screens_check .closed (fun _ => Iff.rfl) fun hopen => ?_
  exact hopen.screens_check .otherThread (fun _ => Iff.rfl) id

theorem screens_requireClass (hask : ask ≠ .store)
    (h : view.NoneBefore caller ask Ground.noClassName.position) :
    view.Screens caller ask Ground.unmanaged.position (view.requireClass ask.className?) := by
  unfold requireClass
  cases hname : ask.className?.filter (!Text.isBlank ·) with
  | none => exact ⟨.noClassName, ⟨⟨hask, by simpa using hname⟩, rfl⟩, h⟩
  | some className =>
    obtain ⟨hname, hblank⟩ := Option.filter_eq_some_iff.1 hname
    have hnamed := h.next .noClassName fun _ happlies => by
      simp [happlies.1.2 className hname] at hblank
    refine hnamed.screens_read .classUnread .unknownClass rfl (fun _ => ?_) fun _ => ?_
    · simp [Applies, hname]
    · simp [Applies, hname]

theorem screens_requireObject {target : ObjectTarget}
    (h : view.NoneBefore caller (.object target) Ground.noReference.position) :
    view.Screens caller (.object target) Ground.last (view.requireObject target.object?) := by
  cases hreference : target.object? with
  | none => exact ⟨.noReference, ⟨⟨target, rfl, hreference⟩, rfl⟩, h⟩
  | some object =>
    have hobject : (Ask.object target).object? = some object := hreference
    have hreferred := h.next .noReference fun _ ⟨⟨other, hother, hnone⟩, _⟩ => by
      cases hother
      rw [hreference] at hnone
      cases hnone
    have hclass := screens_requireClass (fun hstore => by cases hstore) hreferred
    rw [Ask.className?, hreference, Option.map_some] at hclass
    refine hclass.bind fun _ haccepted => ?_
    cases hstore : object.storeId with
    | none => exact ⟨.unmanaged, ⟨⟨object, hobject, hstore⟩, rfl⟩, haccepted⟩
    | some owner =>
      have hmanaged := haccepted.next .unmanaged fun _ ⟨⟨other, hother, hnone⟩, _⟩ => by
        rw [Option.mem_unique hother hobject, hstore] at hnone
        cases hnone
      refine hmanaged.screens_check .foreign (fun _ => ?_) fun howned => ?_
      · simp [Applies, hobject, hstore]
      · refine howned.screens_read .objectUnread .notContained rfl (fun _ => ?_) fun _ => ?_
        · simp [Applies, hobject]
        · simp [Applies, hobject]

end Checks

/-! ## Passing the gate -/

/-- The part of an answer that is the gate: it passes a request on with its scope. -/
def gate (view : AccessView) (caller : Thread) : Ask → Except AccessError Scope
  | .store => do
    view.requireUsable caller
    return .store
  | .ofClass target => do
    view.requireUsable caller
    return .ofClass (← view.requireClass target.className?)
  | .object target => do
    view.requireUsable caller
    return .object (← view.requireObject target.object?)

theorem answer_eq (view : AccessView) (caller : Thread) (ask : Ask) :
    view.answer caller ask = view.gate caller ask >>= view.privileges view.principal := by
  cases ask <;>
    simp only [answer, gate, storePrivileges, classPrivileges, objectPrivileges, bind_assoc,
      pure_bind]

/-- A request about the store refers to no class and no object. -/
theorem NoneBefore.of_store
    (h : view.NoneBefore caller .store Ground.noReference.position) :
    view.NoneBefore caller .store Ground.last := by
  have hreferred := h.next .noReference fun _ ⟨⟨_, hobject, _⟩, _⟩ => by cases hobject
  have hnamed := hreferred.next .noClassName fun _ ⟨⟨hask, _⟩, _⟩ => hask rfl
  have hread := hnamed.next .classUnread fun _ ⟨_, hname, _⟩ => by
    cases hname
  have hknown := hread.next .unknownClass fun _ ⟨_, hname, _⟩ => by
    cases hname
  exact hknown.of_object?_eq_none rfl

theorem screens_gate (view : AccessView) (caller : Thread) (ask : Ask) :
    view.Screens caller ask Ground.last (view.gate caller ask) := by
  have husable := screens_requireUsable view caller ask
  cases ask with
  | store => exact husable.bind fun _ h => h.of_store
  | ofClass target =>
    refine husable.bind fun _ h => ?_
    have hreferred := h.next .noReference fun _ ⟨⟨_, hobject, _⟩, _⟩ => by cases hobject
    exact (screens_requireClass (fun hstore => by cases hstore) hreferred).bind fun _ h =>
      h.of_object?_eq_none rfl
  | object target =>
    exact husable.bind fun _ h => (screens_requireObject h).bind fun _ h => h

theorem requireClass_eq_ok {className? : Option String} {className : String}
    (h : view.requireClass className? = .ok className) : className? = some className := by
  unfold requireClass at h
  split at h
  · cases h
  · next name hname =>
    obtain ⟨known, -, h⟩ := bind_eq_ok_iff.1 h
    cases known with
    | false => cases h
    | true => rw [(Option.filter_eq_some_iff.1 hname).1, Except.ok.inj h]

theorem requireObject_eq_ok {object? : Option ObjectRef} {object : ObjectRef}
    (h : view.requireObject object? = .ok object) : object? = some object := by
  unfold requireObject at h
  split at h
  · cases h
  · obtain ⟨className, -, h⟩ := bind_eq_ok_iff.1 h
    split at h
    · cases h
    · split at h
      · cases h
      · obtain ⟨contained, -, h⟩ := bind_eq_ok_iff.1 h
        cases contained with
        | false => cases h
        | true => rw [Except.ok.inj h]

theorem scope?_of_gate {scope : Scope} (h : view.gate caller ask = .ok scope) :
    ask.scope? = some scope := by
  cases ask with
  | store =>
    obtain ⟨_, -, h⟩ := bind_eq_ok_iff.1 h
    exact congrArg some (Except.ok.inj h)
  | ofClass target =>
    obtain ⟨_, -, h⟩ := bind_eq_ok_iff.1 h
    obtain ⟨className, hclass, h⟩ := bind_eq_ok_iff.1 h
    rw [Ask.scope?, requireClass_eq_ok hclass, ← Except.ok.inj h, Option.map_some]
  | object target =>
    obtain ⟨_, -, h⟩ := bind_eq_ok_iff.1 h
    obtain ⟨object, hobject, h⟩ := bind_eq_ok_iff.1 h
    rw [Ask.scope?, requireObject_eq_ok hobject, ← Except.ok.inj h, Option.map_some]

/-- **The gate and what is behind it.** A request is refused for the first ground that applies,
or none applies and the resolution at its scope answers. -/
theorem refused_or_resolved (view : AccessView) (caller : Thread) (ask : Ask) :
    (∃ ground error, view.First caller ask ground error ∧
      view.answer caller ask = .error error) ∨
    (∀ ground error, ¬ view.Applies caller ask ground error) ∧
      ∃ scope, ask.scope? = some scope ∧
        view.answer caller ask = view.privileges view.principal scope := by
  have hscreens := screens_gate view caller ask
  rw [answer_eq]
  rcases hgate : view.gate caller ask with error | scope
  · rw [hgate] at hscreens
    obtain ⟨ground, hfirst⟩ := hscreens
    exact .inl ⟨ground, error, hfirst, rfl⟩
  · rw [hgate] at hscreens
    refine .inr ⟨fun ground error happlies => ?_, scope, scope?_of_gate hgate, rfl⟩
    exact absurd (hscreens ground error happlies) (Nat.not_le.2 ground.position_lt)

/-! ## Errors -/

/-- Something that the view is read for is not read, with this error. -/
inductive ReadFails (view : AccessView) (error : AccessError) : Prop
  | hasClass {className : String} : view.hasClass className = .error error → ReadFails view error
  | containsObject {object : ObjectRef} :
      view.containsObject object = .error error → ReadFails view error
  | realmGrants : view.realmGrants = .error error → ReadFails view error
  | classGrants {className : String} :
      view.classGrants className = .error error → ReadFails view error
  | objectGrants {object : ObjectRef} :
      view.objectGrants object = .error error → ReadFails view error
  | findRole {role : String} : view.findRole role = .error error → ReadFails view error

theorem not_classRefused {className : String} (h : view.InSchema className)
    (error : AccessError) : ¬ view.ClassRefused className error := by
  rintro (hblank | ⟨-, hclass⟩ | ⟨-, hclass⟩)
  · rw [h.1] at hblank
    cases hblank
  · rw [h.2] at hclass
    cases hclass
  · rw [h.2] at hclass
    cases hclass

/-- The class of a request that the gate lets through is one of the schema, so the resolution
accepts it again. -/
theorem inSchema_of_not_applies {className : String}
    (hnone : ∀ ground error, ¬ view.Applies caller ask ground error)
    (hname : ask.className? = some className) : view.InSchema className := by
  have hask : ask ≠ .store := by
    rintro rfl
    cases hname
  constructor
  · cases hblank : Text.isBlank className with
    | false => rfl
    | true =>
      refine absurd ⟨⟨hask, fun other hother => ?_⟩, rfl⟩ (hnone .noClassName _)
      rw [Option.mem_unique hother hname, hblank]
  · rcases hclass : view.hasClass className with error | known
    · exact absurd ⟨className, hname, hclass⟩ (hnone .classUnread error)
    · cases known with
      | false => exact absurd ⟨className, hname, hclass, rfl⟩ (hnone .unknownClass _)
      | true => rfl

/-- Past the gate, a resolution only fails when something is not read. -/
theorem readFails_of_privileges {scope : Scope} {error : AccessError}
    (hscope : ∀ className ∈ scope.className?, view.InSchema className)
    (h : view.privileges view.principal scope = .error error) : view.ReadFails error := by
  cases GrantSource.privileges_eq_error_iff.1 h with
  | unread hunread =>
    cases hunread with
    | realm hrealm => exact .realmGrants hrealm
    | className hrefused | objectClass hrefused =>
      exact absurd hrefused (not_classRefused (hscope _ rfl) error)
    | classGrants _ hkept => exact .classGrants hkept
    | objectGrants _ hgrants => exact .objectGrants hgrants
  | roleUnread _ hrole =>
    obtain ⟨before, g, after, -, -, -, hfound⟩ := hrole
    exact .findRole hfound

/-- The gate itself never complains about a scope or an identifier. -/
theorem Applies.readFails {ground : Ground} {error : AccessError}
    (h : view.Applies caller ask ground error)
    (herror : ∃ detail, error = .invalidScope detail ∨ error = .invalidPrincipal detail) :
    view.ReadFails error := by
  obtain ⟨detail, herror⟩ := herror
  cases ground with
  | closed | otherThread | noReference | noClassName | unmanaged | foreign | notContained =>
    obtain ⟨-, rfl⟩ := h
    rcases herror with herror | herror <;> cases herror
  | classUnread =>
    obtain ⟨className, -, hclass⟩ := h
    exact .hasClass hclass
  | unknownClass =>
    obtain ⟨className, -, -, rfl⟩ := h
    rcases herror with herror | herror <;> cases herror
  | objectUnread =>
    obtain ⟨object, -, hcontains⟩ := h
    exact .containsObject hcontains

/-- **The answer goes by the first ground that applies.** A request for privileges, by whatever
caller and in whatever way it names its class or object, is refused for the first ground that
applies to it; if none does, the answer is what the resolution gives at the scope that is asked
about. An error about a scope or an identifier is that of a read that failed, and a request is
granted privileges only if no ground to refuse it applies. -/
theorem gate_order (view : AccessView) (caller : Thread) (ask : Ask) :
    (∀ ground error, view.First caller ask ground error →
      view.answer caller ask = .error error) ∧
    ((∀ ground error, ¬ view.Applies caller ask ground error) →
      ∃ scope, ask.scope? = some scope ∧
        view.answer caller ask = view.privileges view.principal scope) ∧
    (∀ error, view.answer caller ask = .error error →
      (∃ detail, error = .invalidScope detail ∨ error = .invalidPrincipal detail) →
        view.ReadFails error) ∧
    ∀ v, view.answer caller ask = .ok v →
      ∀ ground error, ¬ view.Applies caller ask ground error := by
  rcases view.refused_or_resolved caller ask with
    ⟨ground, error, hfirst, hanswer⟩ | ⟨hnone, scope, hscope, hanswer⟩
  · refine ⟨fun ground' error' hfirst' => ?_, fun hnone => ?_, fun error' herror' hkind => ?_,
      fun v hv => ?_⟩
    · rw [hanswer, hfirst.error_eq hfirst']
    · exact absurd hfirst.applies (hnone ground error)
    · rw [hanswer] at herror'
      rw [← Except.error.inj herror'] at hkind ⊢
      exact hfirst.applies.readFails hkind
    · rw [hanswer] at hv
      cases hv
  · refine ⟨fun ground error hfirst => ?_, fun _ => ⟨scope, hscope, hanswer⟩,
      fun error herror _ => ?_, fun v _ => hnone⟩
    · exact absurd hfirst.applies (hnone ground error)
    · rw [hanswer] at herror
      refine readFails_of_privileges (fun className hname => ?_) herror
      exact inSchema_of_not_applies hnone ((Ask.className?_eq_of_scope? hscope).trans hname)

/-- A view whose schema does not answer for one class, asked about an object of another store and
of an unknown class, about the class without an answer, and about the store. -/
theorem gate_order_many_grounds :
    let alice : Principal := ⟨"alice", by decide⟩
    let view : AccessView := {
      hasClass := fun className =>
        if className = "Broken" then .error (.invalidScope "no answer") else .ok false
      classNames := .ok []
      realmGrants := .ok default
      classGrants := fun _ => .ok none
      objectGrants := fun _ => .ok .empty
      findRole := fun _ => .ok none
      storeId := ⟨1⟩
      principal := alice
      closed := false
      owner := ⟨0⟩
      inTransaction := false
      containsObject := fun _ => .ok false
      listRoles := .ok [] }
    let foreign : Ask := .object (.ref (some (.managed ⟨2⟩ "Ghost" ⟨7⟩)))
    let broken : Ask := .ofClass (.named (some "Broken"))
    view.First ⟨0⟩ foreign .unknownClass (.unknownType "Ghost") ∧
      view.answer ⟨0⟩ foreign = .error (.unknownType "Ghost") ∧
      view.answer ⟨0⟩ broken = .error (.invalidScope "no answer") ∧
      view.ReadFails (.invalidScope "no answer") ∧
      view.answer ⟨0⟩ .store = .ok ⟨.all⟩ ∧
      (∀ ground error, ¬ view.Applies ⟨0⟩ .store ground error) ∧
      ∃ scope, Ask.store.scope? = some scope ∧
        view.answer ⟨0⟩ .store = view.privileges alice scope := by
  intro alice view foreign broken
  have hfirst : view.First ⟨0⟩ foreign .unknownClass (.unknownType "Ghost") := by
    refine ⟨⟨"Ghost", rfl, rfl, rfl⟩, fun ground error happlies => ?_⟩
    cases ground with
    | closed => cases happlies.1
    | otherThread => exact absurd rfl happlies.1
    | noReference =>
      obtain ⟨⟨target, htarget, hnone⟩, -⟩ := happlies
      rw [← Ask.object.inj htarget] at hnone
      cases hnone
    | noClassName => exact absurd (happlies.1.2 "Ghost" rfl) (by decide)
    | classUnread =>
      obtain ⟨className, hname, hclass⟩ := happlies
      cases hname
      cases hclass
    | unknownClass | unmanaged | foreign | objectUnread | notContained => decide
  have hbroken : view.answer ⟨0⟩ broken = .error (.invalidScope "no answer") := by rfl
  have hstore : view.answer ⟨0⟩ .store = .ok ⟨.all⟩ := by rfl
  have hnone := (gate_order view ⟨0⟩ .store).2.2.2 _ hstore
  exact ⟨hfirst, (gate_order view ⟨0⟩ foreign).1 _ _ hfirst, hbroken,
    (gate_order view ⟨0⟩ broken).2.2.1 _ hbroken ⟨"no answer", .inl rfl⟩, hstore, hnone,
    (gate_order view ⟨0⟩ .store).2.1 hnone⟩

end AccessView

end StoreAccess
