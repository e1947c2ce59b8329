import StoreAccess.Proofs.Resolution
import StoreAccess.Proofs.Store.Effects
import StoreAccess.Proofs.Store.Isolation

/-!
# What a resolution reads of the contents

A resolution in a store reads the list of grants of its scope, and of the roles named there
whether they include the principal. Contents that agree in that resolve alike.

Main statements: `GrantSource.privileges_congr` and `GrantSource.privileges_grant`, for any two
sources of grants, and `Contents.AgreeAt.privileges_eq`, for the contents of a store.
-/

namespace StoreAccess

namespace GrantSource

variable {source source' : GrantSource} {p : Principal}

theorem addGrants_congr {gs : List Grant}
    (h : ∀ g ∈ gs, source'.roleIncludes p g.role = source.roleIncludes p g.role)
    (merged : CapabilitySet) : source'.addGrants p merged gs = source.addGrants p merged gs := by
  induction gs generalizing merged with
  | nil => rfl
  | cons g gs ih =>
    obtain ⟨hg, hgs⟩ := List.forall_mem_cons.1 h
    simp only [addGrants, hg, ih hgs]

/-- Sources that have the same grants at a scope, and say the same of the roles named there,
resolve alike. -/
theorem privileges_congr {scope : Scope} (hgrants : source'.grantsAt scope = source.grantsAt scope)
    (hroles : ∀ l, source.grantsAt scope = .ok l →
      ∀ g ∈ l.entries, source'.roleIncludes p g.role = source.roleIncludes p g.role) :
    source'.privileges p scope = source.privileges p scope := by
  unfold privileges
  rw [hgrants]
  rcases hl : source.grantsAt scope with error | l
  · rfl
  · simp only [ok_bind, addGrants_congr (hroles l hl)]

/-- A grant to a role that does not include the principal adds nothing, wherever it is placed. -/
theorem addGrants_place {g : Grant} (h : source.roleIncludes p g.role = .ok false)
    (merged : CapabilitySet) (es : List Grant) :
    source.addGrants p merged (GrantList.place g es) = source.addGrants p merged es := by
  induction es generalizing merged with
  | nil => simp [GrantList.place, addGrants, h]
  | cons e es ih =>
    unfold GrantList.place
    split
    · next he =>
      -- The entry that is replaced counted for nothing before either.
      simp [addGrants, he, h]
    · simp only [addGrants, ih]

theorem fallback?_grant {kind : ScopeKind} {l : GrantList} {g : Grant}
    (h : g.role ≠ everyoneName) : Policy.fallback? kind (l.grant g) = Policy.fallback? kind l := by
  rw [Policy.fallback?, GrantList.find?_grant, if_neg (Ne.symm h), ← Policy.fallback?]

/-- One more grant at a scope, to a role that does not include the principal, changes nothing. -/
theorem privileges_grant {scope : Scope} {g : Grant}
    (hgrants : source'.grantsAt scope = (·.grant g) <$> source.grantsAt scope)
    (hroles : ∀ role, source'.roleIncludes p role = source.roleIncludes p role)
    (hout : source.roleIncludes p g.role = .ok false) :
    source'.privileges p scope = source.privileges p scope := by
  have hname : g.role ≠ everyoneName := by
    intro heveryone
    simp [roleIncludes, namesEveryone_iff.2 heveryone] at hout
  have hadd : ∀ merged es, source'.addGrants p merged es = source.addGrants p merged es :=
    fun merged es => addGrants_congr (fun e _ => hroles e.role) merged
  unfold privileges
  rw [hgrants]
  rcases source.grantsAt scope with error | l
  · rfl
  · have hentries : (l.grant g).entries = GrantList.place g l.entries := rfl
    simp only [ok_map, ok_bind, fallback?_grant hname, hadd, hentries, addGrants_place hout]

end GrantSource

namespace Contents

/-! ## Contents as a source of grants -/

/-- The contents as a resolution reads them. -/
def source (contents : Contents) : GrantSource where
  hasClass className := .ok (contents.hasClass className)
  classNames := .ok contents.classes.keys
  realmGrants := .ok contents.realm
  classGrants className := .ok (contents.classes.get? className)
  objectGrants object := .ok (contents.objectGrants object.id)
  findRole role := .ok (contents.roles.get? role)

/-- Whether the role of a name includes a principal. -/
def includes (contents : Contents) (p : Principal) (role : String) : Bool :=
  namesEveryone role || (contents.roles.get? role).any (·.hasMember p)

variable {contents contents' : Contents} {p : Principal}

theorem roleIncludes_source (contents : Contents) (p : Principal) (role : String) :
    contents.source.roleIncludes p role = .ok (contents.includes p role) := by
  unfold GrantSource.roleIncludes includes
  cases hname : namesEveryone role with
  | true => simp
  | false => cases hfound : contents.roles.get? role <;> simp [source, hfound]

theorem includes_source_iff {role : String} :
    contents.source.Includes p role ↔ contents.includes p role = true := by
  simp [GrantSource.Includes, includes, source, GrantSource.namesEveryone_iff,
    Option.any_eq_true]

/-- The contents have the same classes, and the same grants at the scope. -/
structure AgreeAt (contents contents' : Contents) (scope : Scope) : Prop where
  hasClass : ∀ className, contents'.hasClass className = contents.hasClass className
  realm : scope = .store → contents'.realm = contents.realm
  classGrants : ∀ className, scope = .ofClass className →
    contents'.classes.get? className = contents.classes.get? className
  objectGrants : ∀ object, scope = .object object →
    contents'.objects.get? object.id = contents.objects.get? object.id

theorem AgreeAt.symm {scope : Scope} (h : contents.AgreeAt contents' scope) :
    contents'.AgreeAt contents scope where
  hasClass className := (h.hasClass className).symm
  realm hscope := (h.realm hscope).symm
  classGrants className hscope := (h.classGrants className hscope).symm
  objectGrants object hscope := (h.objectGrants object hscope).symm

theorem requireClassScope_congr
    (h : ∀ className, contents'.hasClass className = contents.hasClass className)
    (className : String) :
    contents'.source.requireClassScope className = contents.source.requireClassScope className := by
  simp only [GrantSource.requireClassScope, source, h]

theorem AgreeAt.grantsAt_eq {scope : Scope} (h : contents.AgreeAt contents' scope) :
    contents'.source.grantsAt scope = contents.source.grantsAt scope := by
  have hclass := requireClassScope_congr h.hasClass
  cases scope with
  | store => simp only [GrantSource.grantsAt, source, h.realm rfl]
  | ofClass className =>
    simp only [GrantSource.grantsAt, hclass]
    simp only [source, h.classGrants className rfl]
  | object object =>
    have hgrants : Contents.objectGrants contents' object.id =
        Contents.objectGrants contents object.id := by
      rw [Contents.objectGrants, Contents.objectGrants, h.objectGrants object rfl]
    simp only [GrantSource.grantsAt, hclass]
    simp only [source, hgrants]

/-- Contents that agree at the scope resolve alike there for a principal, if they say the same of
the principal and the roles named there. -/
theorem AgreeAt.privileges_eq {scope : Scope} (h : contents.AgreeAt contents' scope)
    (hroles : ∀ l, contents.source.grantsAt scope = .ok l →
      ∀ role ∈ l.roles, contents'.includes p role = contents.includes p role) :
    contents'.source.privileges p scope = contents.source.privileges p scope := by
  refine GrantSource.privileges_congr h.grantsAt_eq fun l hl g hg => ?_
  have hrole : g.role ∈ l.roles := List.mem_map_of_mem hg
  rw [roleIncludes_source, roleIncludes_source, hroles l hl g.role hrole]

/-- A new role includes nobody, unless it is that of everyone. -/
theorem includes_withRole (contents : Contents) (p : Principal) (role other : String) :
    (contents.withRole role).includes p other = contents.includes p other := by
  cases hrole : contents.roles.contains role with
  | true => rw [withRole_of_contains hrole]
  | false =>
    have hnone : contents.roles.get? role = none := by
      simpa [SortedMap.contains] using hrole
    rw [withRole_of_not_contains hrole, includes, includes, SortedMap.get?_insert]
    by_cases hother : other = role
    · subst hother
      simp [hnone, Role.hasMember, Role.isEveryone, Role.isRecorded]
    · rw [if_neg hother]

end Contents

/-! ## Resolutions asked for through a handle -/

theorem Connection.toGrantSource_view (connection : Connection) :
    connection.view.toGrantSource = connection.visible.source := rfl

namespace Store

variable {store store' : Store} {handle : HandleId} {connection connection' : Connection}
  {caller : Thread} {call : Call} {reply : Reply}

theorem read_privilegesOf (h : store.connection? handle = some connection) (reader : Thread)
    (p : Principal) (scope : Scope) :
    store.read handle reader (.privilegesOf p.text scope) =
      .called (Reply.privileges <$> connection.visible.source.privileges p scope) := by
  rw [read_eq h, AccessView.reply, GrantSource.privilegesOf, Principal.parse_text, ok_bind,
    Connection.toGrantSource_view, map_eq_pure_bind]

/-- An identifier that is not accepted is refused as before. -/
theorem read_privilegesOf_congr (h : store.connection? handle = some connection)
    (h' : store'.connection? handle = some connection') {scope : Scope}
    (hsame : ∀ p, connection'.visible.source.privileges p scope =
      connection.visible.source.privileges p scope) (reader : Thread) (principal : String) :
    store'.read handle reader (.privilegesOf principal scope) =
      store.read handle reader (.privilegesOf principal scope) := by
  rcases hparse : Principal.parse principal with error | p
  · simp [read_eq h, read_eq h', AccessView.reply, GrantSource.privilegesOf, hparse]
  · rw [Principal.parse_eq_ok_iff.1 hparse, read_privilegesOf h, read_privilegesOf h', hsame]

/-- What comes of a writing call that succeeds, as a resolution through its handle sees it. -/
theorem effect_on_resolution (hconnection : store.connection? handle = some connection)
    {change : Action Contents Reply} (hcall : call.change? connection.storeId = some change)
    (hstep : store.step (.call handle caller call) = (.called (.ok reply), store')) :
    ∃ connection', store'.connection? handle = some connection' ∧
      connection.visible.Effect store.id call reply connection'.visible := by
  obtain ⟨contents, contents', hwrites, heffect, rfl⟩ := effect_of_step hconnection hcall hstep
  have hid : connection.storeId = store.id := storeId_of_connection? hconnection
  refine ⟨connection.withPending contents', ?_, ?_⟩
  · rw [connection?_update (show (connection.withPending contents').storeId = _ from hid)]
  · rw [Connection.visible_eq hwrites]
    exact heffect

end Store

end StoreAccess
