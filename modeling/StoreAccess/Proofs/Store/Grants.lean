import StoreAccess.Proofs.Store.Resolving

/-!
# Grants stay in their scope

Granting, creating and deleting objects, and creating roles change the grants of one scope at
most. They may file a new role, but it has no members, so no list that names it allows more than
before. What remains is the scope itself, where a grant counts for those its role includes.

Main statement: `grants_stay_in_scope`.
-/

namespace StoreAccess

/-- The scope is the store, a class, or an object of the store. -/
def Scope.Within (id : StoreId) : Scope → Prop
  | .store | .ofClass _ => True
  | .object target => target.storeId = some id

/-- The call grants capabilities to a role at a scope. -/
inductive Call.Grants : Call → Scope → String → Prop
  | onStore {role : String} {capabilities : CapabilitySet} :
      Grants (.grantOnStore role capabilities) .store role
  | onClass {className role : String} {capabilities : CapabilitySet} :
      Grants (.grantOnClass className role capabilities) (.ofClass className) role
  | onObject {object : ObjectRef} {role : String} {capabilities : CapabilitySet} :
      Grants (.grantOnObject object role capabilities) (.object object) role

/-- The scope whose grants the call changes when it succeeds, for calls that grant, create or
delete objects, or create roles. A new role is at no scope. -/
inductive Call.Touches : Call → Reply → Option Scope → Prop
  | grants {call : Call} {reply : Reply} {scope : Scope} {role : String} :
      call.Grants scope role → Touches call reply (some scope)
  | creates {call : Call} {className : String} {object : ObjectRef} :
      call.creates? = some className → Touches call (.object object) (some (.object object))
  | deletes {object : ObjectRef} {reply : Reply} :
      Touches (.deleteObject object) reply (some (.object object))
  | createsRole {change : RoleChange} {role : String} {reply : Reply} :
      change.creates? = some role → Touches (.request (.change change)) reply none

theorem Call.Grants.change?_eq_some {call : Call} {scope : Scope} {role : String}
    (h : call.Grants scope role) (id : StoreId) : ∃ change, call.change? id = some change := by
  cases h <;> exact ⟨_, rfl⟩

theorem Call.Touches.change?_eq_some {call : Call} {reply : Reply} {place? : Option Scope}
    (h : call.Touches reply place?) (id : StoreId) : ∃ change, call.change? id = some change := by
  cases h with
  | grants hgrants => exact hgrants.change?_eq_some id
  | creates hcreates => exact Call.change?_of_creates? hcreates id
  | deletes | createsRole => exact ⟨_, rfl⟩

theorem Call.Touches.unique {call : Call} {reply : Reply} {place? place'? : Option Scope}
    (h : call.Touches reply place?) (h' : call.Touches reply place'?) : place? = place'? := by
  cases h with
  | grants hgrants =>
    cases hgrants <;> cases h' with
    | grants hgrants' =>
      cases hgrants'
      rfl
    | creates hcreates => cases hcreates
  | creates hcreates =>
    cases h' with
    | grants hgrants => cases hgrants <;> cases hcreates
    | creates => rfl
    | deletes => cases hcreates
    | createsRole => cases hcreates
  | deletes =>
    cases h' with
    | grants hgrants => cases hgrants
    | creates hcreates => cases hcreates
    | deletes => rfl
  | createsRole =>
    cases h' with
    | grants hgrants => cases hgrants
    | creates hcreates => cases hcreates
    | createsRole => rfl

namespace Contents

variable {contents contents' : Contents} {id : StoreId} {call : Call} {reply : Reply}

/-! ## What is left alone -/

/-- Putting other grants on an object, or taking it away, leaves the other objects alone. -/
theorem agreeAt_of_objects {object : ObjectRef} {scope : Scope}
    (hclass : ∀ className, contents'.hasClass className = contents.hasClass className)
    (hclasses : contents'.classes = contents.classes) (hrealm : contents'.realm = contents.realm)
    (hobjects : ∀ key, key ≠ object.id → contents'.objects.get? key = contents.objects.get? key)
    (howned : object.storeId = some id) (hwithin : scope.Within id)
    (hother : scope ≠ .object object) : contents.AgreeAt contents' scope where
  hasClass := hclass
  realm _ := hrealm
  classGrants className _ := by rw [hclasses]
  objectGrants other hscope := by
    subst hscope
    have howned' : other.storeId = some id := hwithin
    refine hobjects other.id fun hid => hother ?_
    rw [ObjectRef.eq_of_id_eq howned' howned hid]

/-- At every scope but its own, such a call leaves the grants alone. -/
theorem Effect.agreeAt {place? : Option Scope} {scope : Scope}
    (h : Effect id contents call reply contents') (htouches : call.Touches reply place?)
    (hwithin : scope.Within id) (hother : place? ≠ some scope) :
    contents.AgreeAt contents' scope := by
  have hclass := h.hasClass_eq
  cases h with
  | createObject hcreates =>
    have hplace := htouches.unique (.creates hcreates)
    have hscope : scope ≠ _ := fun heq => hother (heq ▸ hplace)
    refine agreeAt_of_objects hclass rfl rfl (fun key hkey => ?_) rfl hwithin hscope
    exact (SortedMap.get?_insert ..).trans (if_neg hkey)
  | deleteObject howned =>
    have hplace := htouches.unique .deletes
    have hscope : scope ≠ _ := fun heq => hother (heq ▸ hplace)
    refine agreeAt_of_objects hclass rfl rfl (fun key hkey => ?_) howned hwithin hscope
    exact (SortedMap.get?_erase ..).trans (if_neg hkey)
  | grantOnStore =>
    have hplace := htouches.unique (.grants .onStore)
    exact ⟨hclass, fun hscope => absurd (hscope ▸ hplace) hother, fun _ _ => rfl, fun _ _ => rfl⟩
  | @grantOnClass className role capabilities kept hkept =>
    have hplace := htouches.unique (.grants .onClass)
    refine ⟨hclass, fun _ => rfl, fun other hscope => ?_, fun _ _ => rfl⟩
    have hne : other ≠ className := fun heq => hother (hscope ▸ heq ▸ hplace)
    exact (SortedMap.get?_insert ..).trans (if_neg hne)
  | grantOnObject howned =>
    have hplace := htouches.unique (.grants .onObject)
    have hscope : scope ≠ _ := fun heq => hother (heq ▸ hplace)
    refine agreeAt_of_objects hclass rfl rfl (fun key hkey => ?_) howned hwithin hscope
    exact (SortedMap.get?_insert ..).trans (if_neg hkey)
  | createRole | recordPrincipal | addMember | insertMember | removeMember =>
    exact ⟨hclass, fun _ => rfl, fun _ _ => rfl, fun _ _ => rfl⟩

/-- Such a call changes for nobody which roles include them. -/
theorem Effect.includes_eq {place? : Option Scope}
    (h : Effect id contents call reply contents') (htouches : call.Touches reply place?)
    (p : Principal) (role : String) : contents'.includes p role = contents.includes p role := by
  cases h with
  | createObject | deleteObject => rfl
  | grantOnStore | grantOnClass | grantOnObject | createRole => exact includes_withRole ..
  | recordPrincipal | addMember | insertMember =>
    -- Changes of members are no calls of this kind.
    cases htouches with
    | grants hgrants => cases hgrants
    | createsRole hcreates => cases hcreates
  | removeMember hdrops =>
    cases htouches with
    | grants hgrants => cases hgrants
    | createsRole hcreates => cases hdrops <;> cases hcreates

theorem Effect.privileges_eq {place? : Option Scope} {scope : Scope}
    (h : Effect id contents call reply contents') (htouches : call.Touches reply place?)
    (hwithin : scope.Within id) (hother : place? ≠ some scope) (p : Principal) :
    contents'.source.privileges p scope = contents.source.privileges p scope :=
  (h.agreeAt htouches hwithin hother).privileges_eq fun _ _ role _ =>
    h.includes_eq htouches p role

/-! ## At the scope of a grant -/

/-- A grant adds to the list of its scope. -/
theorem Effect.grantsAt_eq {scope : Scope} {role : String}
    (h : Effect id contents call reply contents') (hgrants : call.Grants scope role) :
    ∃ capabilities, contents'.source.grantsAt scope =
      (·.grant ⟨role, capabilities⟩) <$> contents.source.grantsAt scope := by
  have hclass := requireClassScope_congr h.hasClass_eq
  cases hgrants with
  | @onStore role capabilities =>
    cases h with
    | grantOnStore => exact ⟨capabilities, rfl⟩
    | createObject hcreates => cases hcreates
  | @onClass className role capabilities =>
    cases h with
    | createObject hcreates => cases hcreates
    | grantOnClass hkept =>
      refine ⟨capabilities, ?_⟩
      simp only [GrantSource.grantsAt, hclass]
      rcases contents.source.requireClassScope className with error | _
      · rfl
      · simp [source, SortedMap.get?_insert, hkept]
  | @onObject object role capabilities =>
    cases h with
    | createObject hcreates => cases hcreates
    | grantOnObject howned hkept =>
      refine ⟨capabilities, ?_⟩
      simp only [GrantSource.grantsAt, hclass]
      rcases contents.source.requireClassScope object.className with error | _
      · rfl
      · simp [source, Contents.objectGrants, SortedMap.get?_insert, hkept]

/-- There a grant counts only for those whom its role includes. -/
theorem Effect.privileges_eq_of_not_includes {scope : Scope} {role : String} {p : Principal}
    (h : Effect id contents call reply contents') (hgrants : call.Grants scope role)
    (hout : ¬ contents.source.Includes p role) :
    contents'.source.privileges p scope = contents.source.privileges p scope := by
  obtain ⟨capabilities, hlist⟩ := h.grantsAt_eq hgrants
  have hroles : ∀ other, contents'.source.roleIncludes p other =
      contents.source.roleIncludes p other := by
    intro other
    rw [roleIncludes_source, roleIncludes_source, h.includes_eq (.grants hgrants)]
  refine GrantSource.privileges_grant hlist hroles ?_
  rw [includes_source_iff, Bool.not_eq_true] at hout
  rw [roleIncludes_source, hout]

end Contents

namespace Store

variable {store store' : Store} {handle : HandleId} {connection : Connection} {caller : Thread}
  {call : Call} {reply : Reply}

/-- **Grants stay in their scope and with their role.** Whenever a call through a live handle that
grants, creates or deletes an object, or creates a role succeeds, every principal has through that
handle the privileges it had at every other scope, be that the store, a class or an object of the
store, also if a grant was the first to name its role. At the scope of a grant so has every
principal whom the role does not include. -/
theorem grants_stay_in_scope (hconnection : store.connection? handle = some connection)
    (hstep : store.step (.call handle caller call) = (.called (.ok reply), store'))
    (reader : Thread) :
    (∀ place?, call.Touches reply place? → ∀ scope, scope.Within store.id → place? ≠ some scope →
      ∀ principal, store'.read handle reader (.privilegesOf principal scope) =
        store.read handle reader (.privilegesOf principal scope)) ∧
    ∀ scope role, call.Grants scope role → ∀ p, ¬ connection.view.Includes p role →
      store'.read handle reader (.privilegesOf p.text scope) =
        store.read handle reader (.privilegesOf p.text scope) := by
  refine ⟨fun place? htouches scope hwithin hother principal => ?_,
    fun scope role hgrants p hout => ?_⟩
  · obtain ⟨change, hcall⟩ := htouches.change?_eq_some connection.storeId
    obtain ⟨connection', hconnection', heffect⟩ := effect_on_resolution hconnection hcall hstep
    exact read_privilegesOf_congr hconnection hconnection'
      (heffect.privileges_eq htouches hwithin hother) reader principal
  · obtain ⟨change, hcall⟩ := hgrants.change?_eq_some connection.storeId
    obtain ⟨connection', hconnection', heffect⟩ := effect_on_resolution hconnection hcall hstep
    rw [read_privilegesOf hconnection, read_privilegesOf hconnection',
      heffect.privileges_eq_of_not_includes hgrants hout]

/-- Two documents, and a grant on the first that is the first to name its role. -/
theorem grants_stay_in_scope_of_two_documents :
    let alice : Principal := ⟨"alice", by decide⟩
    let events : List Event :=
      [.openHandle ⟨0⟩ alice.text, .call ⟨0⟩ ⟨0⟩ .begin,
        .call ⟨0⟩ ⟨0⟩ (.createObject "Document"), .call ⟨0⟩ ⟨0⟩ (.createObject "Document")]
    let first : ObjectRef := .managed ⟨0⟩ "Document" ⟨1⟩
    let second : ObjectRef := .managed ⟨0⟩ "Document" ⟨2⟩
    let grant : Event := .call ⟨0⟩ ⟨0⟩ (.grantOnObject first "editors" .all)
    ∃ start : Store, Store.ofClasses ⟨0⟩ ["Document"] = .ok start ∧ ∃ store',
      (start.run events).2.step grant = (.called (.ok .done), store') ∧ ∀ reader,
        (∀ principal, store'.read ⟨0⟩ reader (.privilegesOf principal (.object second)) =
          (start.run events).2.read ⟨0⟩ reader (.privilegesOf principal (.object second))) ∧
        store'.read ⟨0⟩ reader (.privilegesOf alice.text (.object first)) =
          (start.run events).2.read ⟨0⟩ reader (.privilegesOf alice.text (.object first)) := by
  intro alice events first second grant
  have hnew : Store.ofClasses ⟨0⟩ ["Document"] = .ok _ := rfl
  refine ⟨_, hnew, ?_⟩
  simp only [events, run_cons, step_openHandle, Principal.parse_text]
  refine Exists.imp (fun store' hstep => ⟨hstep, fun reader => ⟨fun principal => ?_, ?_⟩⟩)
    ⟨_, step_eq_of_reply? (by decide +kernel)⟩
  · exact (grants_stay_in_scope (by rfl) hstep reader).1 _ (.grants .onObject) (.object second)
      (by rfl) (by decide) principal
  · refine (grants_stay_in_scope (by rfl) hstep reader).2 _ _ .onObject alice fun hincludes => ?_
    exact absurd (Contents.includes_source_iff.1 hincludes) (by decide +kernel)

end Store

end StoreAccess
