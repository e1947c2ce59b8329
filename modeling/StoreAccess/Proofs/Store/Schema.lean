import Mathlib.Data.List.Induction
import Mathlib.Data.List.Sort
import Mathlib.Data.String.Basic
import StoreAccess.Proofs.Store.Integrity
import StoreAccess.Proofs.Store.Objects

/-!
# Classes are fixed and roles stay

The classes of a store are declared one after the other when it is made, and the first name that
is blank or was there before is refused. After that nothing declares a class or takes one away.
Roles are created by name, on request or by a grant, and nothing takes them away either: contents
that a replay of writes leads to `Continue` those it started from.

Main statement: `classes_fixed_roles_stay`.
-/

namespace StoreAccess

/-- Texts that are keys come in ascending order. -/
theorem SortedMap.keys_lt {ν : Type} (m : SortedMap String ν) : m.keys.Pairwise (· < ·) :=
  m.keys_ascending.imp compare_lt_iff_lt.1

/-! ## Declaring the classes -/

namespace Contents

/-- The names can be those of the classes of a store. -/
structure Declarable (classNames : List String) : Prop where
  not_blank : ∀ className ∈ classNames, Text.isBlank className = false
  nodup : classNames.Nodup

/-- What is wrong with a class name that comes after others. -/
inductive Objection (before : List String) (className : String) : AccessError → Prop
  | blank : Text.isBlank className = true → Objection before className .blankName
  | repeated : className ∈ before → Objection before className (.repeatedClass className)

/-- The error is about the first name with which something is wrong. -/
def FirstObjection (classNames : List String) (error : AccessError) : Prop :=
  ∃ before className after, classNames = before ++ className :: after ∧
    Declarable before ∧ Objection before className error

variable {classNames before after : List String} {className : String} {error : AccessError}

theorem declarable_nil : Declarable [] := ⟨by simp, List.nodup_nil⟩

theorem declarable_snoc_iff : Declarable (classNames ++ [className]) ↔
    Declarable classNames ∧ Text.isBlank className = false ∧ className ∉ classNames := by
  constructor
  · rintro ⟨hblank, hnodup⟩
    obtain ⟨hnodup, -, hdisjoint⟩ := List.nodup_append.1 hnodup
    exact ⟨⟨fun name h => hblank name (List.mem_append_left _ h), hnodup⟩, hblank _ (by simp),
      fun h => hdisjoint _ h _ (by simp) rfl⟩
  · rintro ⟨hdeclarable, hblank, hnew⟩
    refine ⟨fun name h => ?_, ?_⟩
    · rcases List.mem_append.1 h with h | h
      · exact hdeclarable.not_blank name h
      · rwa [List.mem_singleton.1 h]
    · rw [← List.concat_eq_append, List.nodup_concat]
      exact ⟨hnew, hdeclarable.nodup⟩

theorem declarable_or_objection (classNames : List String) :
    Declarable classNames ∨ ∃ error, FirstObjection classNames error := by
  induction classNames using List.reverseRecOn with
  | nil => exact .inl declarable_nil
  | append_singleton classNames className ih =>
    rcases ih with hdeclarable | ⟨error, before, refused, after, rfl, hbefore, hobjection⟩
    · cases hblank : Text.isBlank className with
      | true => exact .inr ⟨_, classNames, className, [], rfl, hdeclarable, .blank hblank⟩
      | false =>
        by_cases hmem : className ∈ classNames
        · exact .inr ⟨_, classNames, className, [], rfl, hdeclarable, .repeated hmem⟩
        · exact .inl (declarable_snoc_iff.2 ⟨hdeclarable, hblank, hmem⟩)
    · exact .inr ⟨error, before, refused, after ++ [className], by simp, hbefore, hobjection⟩

theorem declareClass_of_not_blank {declared : SortedMap String ClassGrants}
    (hblank : Text.isBlank className = false) : declareClass declared className =
      if declared.contains className then .error (.repeatedClass className)
      else .ok (declared.insert className ⟨className, .empty⟩) := by
  have hkept := ClassGrants.ofName_eq_ok_iff.2 ⟨rfl, hblank⟩
  simp only [declareClass, hkept, ok_bind]
  split <;> rfl

theorem declareClass_of_blank {declared : SortedMap String ClassGrants}
    (hblank : Text.isBlank className = true) :
    declareClass declared className = .error .blankName := by
  rw [declareClass, ClassGrants.ofName, requireName_of_blank hblank, error_bind, error_bind]

/-- The classes of declarable names are declared, and no others. -/
theorem Declarable.foldlM_eq (h : Declarable classNames) :
    ∃ classes, classNames.foldlM declareClass .empty = .ok classes ∧
      ∀ className, classes.contains className = true ↔ className ∈ classNames := by
  induction classNames using List.reverseRecOn with
  | nil => exact ⟨.empty, rfl, fun className => by simp [SortedMap.contains]⟩
  | append_singleton classNames className ih =>
    obtain ⟨hdeclarable, hblank, hnew⟩ := declarable_snoc_iff.1 h
    obtain ⟨classes, hclasses, hiff⟩ := ih hdeclarable
    refine ⟨classes.insert className ⟨className, .empty⟩, ?_, fun other => ?_⟩
    · rw [List.foldlM_append, hclasses, ok_bind, List.foldlM_cons,
        declareClass_of_not_blank hblank, if_neg (by rwa [hiff])]
      rfl
    · rw [SortedMap.contains_insert, Bool.or_eq_true, decide_eq_true_iff, hiff, List.mem_append,
        List.mem_singleton, or_comm]

theorem FirstObjection.foldlM_eq (h : FirstObjection classNames error) :
    classNames.foldlM declareClass .empty = .error error := by
  obtain ⟨before, className, after, rfl, hbefore, hobjection⟩ := h
  obtain ⟨classes, hclasses, hiff⟩ := hbefore.foldlM_eq
  have hrefused : declareClass classes className = .error error := by
    cases hobjection with
    | blank hblank => exact declareClass_of_blank hblank
    | repeated hmem =>
      rw [declareClass_of_not_blank (hbefore.not_blank className hmem), if_pos ((hiff className).2 hmem)]
  rw [List.foldlM_append, hclasses, ok_bind, List.foldlM_cons, hrefused, error_bind]

end Contents

namespace Store

open Contents (Declarable FirstObjection)

variable {id : StoreId} {classNames : List String} {start : Store}

theorem hasClass_ofClasses (h : Store.ofClasses id classNames = .ok start)
    (hdeclarable : Declarable classNames) (className : String) :
    start.shared.committed.hasClass className = true ↔ className ∈ classNames := by
  obtain ⟨contents, hcontents, rfl⟩ := ofClasses_eq_ok h
  obtain ⟨classes, hclasses, hiff⟩ := hdeclarable.foldlM_eq
  rw [Contents.ofClasses, hclasses, ok_bind] at hcontents
  rw [← Except.ok.inj hcontents]
  exact hiff className

theorem ofClasses_eq_error_of (id : StoreId) {error : AccessError}
    (h : FirstObjection classNames error) : Store.ofClasses id classNames = .error error := by
  rw [Store.ofClasses, Contents.ofClasses, h.foldlM_eq, error_bind, error_bind]

/-- A store can be made just of declarable names. -/
theorem ofClasses_eq_ok_iff (id : StoreId) (classNames : List String) :
    (∃ start, Store.ofClasses id classNames = .ok start) ↔ Declarable classNames := by
  constructor
  · rintro ⟨start, hnew⟩
    refine (Contents.declarable_or_objection classNames).resolve_right ?_
    rintro ⟨error, hobjection⟩
    rw [ofClasses_eq_error_of id hobjection] at hnew
    cases hnew
  · intro hdeclarable
    obtain ⟨classes, hclasses, -⟩ := hdeclarable.foldlM_eq
    rw [Store.ofClasses, Contents.ofClasses, hclasses]
    exact ⟨_, rfl⟩

/-- Of names that are not declarable the first objection is reported. -/
theorem ofClasses_eq_error_iff (id : StoreId) (classNames : List String) (error : AccessError) :
    Store.ofClasses id classNames = .error error ↔ FirstObjection classNames error := by
  refine ⟨fun herror => ?_, ofClasses_eq_error_of id⟩
  rcases Contents.declarable_or_objection classNames with hdeclarable | ⟨error', hobjection⟩
  · obtain ⟨start, hnew⟩ := (ofClasses_eq_ok_iff id classNames).2 hdeclarable
    rw [hnew] at herror
    cases herror
  · rw [ofClasses_eq_error_of id hobjection] at herror
    rwa [← Except.error.inj herror]

end Store

/-! ## What writes keep -/

/-- The later contents have the classes of the earlier ones, and their roles. -/
structure Contents.Continues (earlier later : Contents) : Prop where
  hasClass : ∀ className, later.hasClass className = earlier.hasClass className
  contains : ∀ {role : String}, earlier.roles.contains role = true →
    later.roles.contains role = true

namespace Contents.Continues

variable {id : StoreId} {contents contents' contents'' : Contents}

theorem refl (contents : Contents) : Continues contents contents := ⟨fun _ => rfl, fun h => h⟩

theorem trans (h : Continues contents contents') (h' : Continues contents' contents'') :
    Continues contents contents'' :=
  ⟨fun className => (h'.hasClass className).trans (h.hasClass className),
    fun hrole => h'.contains (h.contains hrole)⟩

/-- Contents that continue others name the same classes, in the same order. -/
theorem classNames_eq (h : Continues contents contents') :
    contents'.classes.keys = contents.classes.keys := by
  refine List.Pairwise.eq_of_mem_iff contents'.classes.keys_lt contents.classes.keys_lt ?_
  intro className
  rw [SortedMap.mem_keys_iff, SortedMap.mem_keys_iff]
  exact Bool.eq_iff_iff.1 (h.hasClass className)

end Contents.Continues

/-- A write that succeeds takes no role away. -/
theorem Contents.Effect.continues {id : StoreId} {contents contents' : Contents} {call : Call}
    {reply : Reply} (h : Contents.Effect id contents call reply contents') :
    contents.Continues contents' := by
  refine ⟨h.hasClass_eq, fun hrole => ?_⟩
  cases h with
  | createObject | deleteObject | recordPrincipal => exact hrole
  | grantOnStore | grantOnClass | grantOnObject | createRole =>
    rw [contains_roles_withRole, hrole, Bool.or_true]
  | addMember | insertMember | removeMember =>
    rw [SortedMap.contains_insert, hrole, Bool.or_true]

namespace Replays

variable {id : StoreId} {writes writes' : Transaction} {first contents contents' : Contents}

theorem continues (h : Replays id writes first contents) : first.Continues contents :=
  h.along (P := fun _ contents => first.Continues contents) (.refl first)
    fun hbefore heffect => hbefore.trans heffect.continues

/-- Replaying the same writes leads to the same contents. -/
theorem contents_eq (h : Replays id writes first contents)
    (h' : Replays id writes first contents') : contents' = contents := by
  induction h with
  | nil =>
    cases h'
    rfl
  | cons hcall hrun _ ih =>
    cases h' with
    | cons hcall' hrun' hrest =>
      obtain rfl := Option.some.inj (hcall.symm.trans hcall')
      obtain ⟨-, rfl⟩ := Prod.mk.inj (hrun.symm.trans hrun')
      exact ih hrest

/-- More writes lead to contents that continue those before. -/
theorem continues_of_prefix (h : Replays id writes first contents)
    (h' : Replays id writes' first contents') (hbegins : writes <+: writes') :
    contents.Continues contents' := by
  obtain ⟨rest, rfl⟩ := hbegins
  obtain ⟨between, hbetween, hrest⟩ := append_iff.1 h'
  rw [h.contents_eq hbetween] at hrest
  exact hrest.continues

end Replays

/-! ## What a store shows of it -/

/-- The roles of sound contents are listed in the order of their names. -/
theorem Contents.Sound.names_roles {contents : Contents} (h : contents.Sound) :
    contents.roles.values.map (·.name) = contents.roles.keys := by
  rw [SortedMap.values, SortedMap.keys, List.map_map]
  refine List.map_congr_left fun entry hentry => ?_
  exact (h.role_filed (SortedMap.get?_eq_some_iff.2 hentry)).1

namespace Store

open Contents (Declarable FirstObjection)

variable {id : StoreId} {classNames : List String} {start store : Store} {handle : HandleId}
  {connection : Connection}

/-- What is seen through any handle, with a transaction or without, continues what was committed
earlier. -/
theorem visible_continues (hnew : Store.ofClasses id classNames = .ok start)
    (events later : List Event)
    (hconnection : (start.run (events ++ later)).2.connection? handle = some connection) :
    (start.run events).2.shared.committed.Continues connection.visible := by
  have hbefore := (accounts_journal hnew events).committed
  have hafter := (accounts_journal hnew (events ++ later)).replays_visible hconnection
  rw [run_id] at hbefore hafter
  exact hbefore.continues_of_prefix hafter
    ((kept_run start events later).trans (List.prefix_append ..))

theorem committed_continues (hnew : Store.ofClasses id classNames = .ok start)
    (events later : List Event) :
    (start.run events).2.shared.committed.Continues
      (start.run (events ++ later)).2.shared.committed := by
  have hbefore := (accounts_journal hnew events).committed
  have hafter := (accounts_journal hnew (events ++ later)).committed
  rw [run_id] at hbefore hafter
  exact hbefore.continues_of_prefix hafter (kept_run start events later)

/-- The names of the classes of a new store are those it was made of, sorted. -/
theorem classNames_ofClasses (hnew : Store.ofClasses id classNames = .ok start) :
    start.shared.committed.classes.keys.Perm classNames := by
  have hdeclarable := (ofClasses_eq_ok_iff id classNames).1 ⟨start, hnew⟩
  refine (List.perm_ext_iff_of_nodup ?_ hdeclarable.nodup).2 fun className => ?_
  · exact (SortedMap.keys_lt _).imp fun hlt => ne_of_lt hlt
  · rw [SortedMap.mem_keys_iff]
    exact hasClass_ofClasses hnew hdeclarable className

/-- **The schema is fixed and roles stay.** A store can be made just of class names that are not
blank and all different, and of other names the first that is blank or there before is reported.
In every run of a store, through every live handle, the classes are those it was made of, sorted,
and the roles are listed by name, each once, with everyone among them. A role that was ever
committed stays committed and is found through every handle, whatever its transaction did. -/
theorem classes_fixed_roles_stay (id : StoreId) (classNames : List String) :
    ((∃ start, Store.ofClasses id classNames = .ok start) ↔ Declarable classNames) ∧
    (∀ error, Store.ofClasses id classNames = .error error ↔ FirstObjection classNames error) ∧
    ∀ start, Store.ofClasses id classNames = .ok start →
      (∃ names : List String, names.Perm classNames ∧ names.Pairwise (· < ·) ∧
        ∀ events handle connection, (start.run events).2.connection? handle = some connection →
          ∀ reader,
            (start.run events).2.read handle reader .classNames = .called (.ok (.names names)) ∧
            ∃ roles : List Role,
              (start.run events).2.read handle reader .listRoles = .called (.ok (.roles roles)) ∧
                (roles.map (·.name)).Pairwise (· < ·) ∧ everyoneName ∈ roles.map (·.name)) ∧
      ∀ events later role, (start.run events).2.shared.committed.roles.contains role = true →
        (start.run (events ++ later)).2.shared.committed.roles.contains role = true ∧
        ∀ handle connection,
          (start.run (events ++ later)).2.connection? handle = some connection →
            ∀ reader, ∃ found, found.name = role ∧
              (start.run (events ++ later)).2.read handle reader (.findRole role) =
                .called (.ok (.keptRole (some found))) := by
  refine ⟨ofClasses_eq_ok_iff id classNames, ofClasses_eq_error_iff id classNames,
    fun start hnew => ⟨⟨start.shared.committed.classes.keys, classNames_ofClasses hnew,
      SortedMap.keys_lt _, fun events handle connection hconnection reader => ⟨?_, ?_⟩⟩,
      fun events later role hrole => ⟨?_, fun handle connection hconnection reader => ?_⟩⟩⟩
  · have hcontinues : start.shared.committed.Continues connection.visible :=
      visible_continues hnew [] events hconnection
    rw [read_eq hconnection, ← hcontinues.classNames_eq]
    rfl
  · have hsound := ((Reachable.ofClasses hnew).run events).sound.of_connection? hconnection
    refine ⟨connection.visible.roles.values, by rw [read_eq hconnection]; rfl, ?_⟩
    rw [hsound.visible.names_roles]
    exact ⟨SortedMap.keys_lt _, SortedMap.mem_keys_iff.2 hsound.visible.everyone⟩
  · exact (committed_continues hnew events later).contains hrole
  · have hsound := ((Reachable.ofClasses hnew).run (events ++ later)).sound.of_connection?
      hconnection
    have hfound := (visible_continues hnew events later hconnection).contains hrole
    obtain ⟨found, hfound⟩ := Option.isSome_iff_exists.1 hfound
    refine ⟨found, (hsound.visible.role_filed hfound).1, ?_⟩
    rw [read_eq hconnection, ← hfound]
    rfl

/-- A grant on a class is the first to name its role, and is committed. A handle opened later finds
the role in its own transaction. Of two faults among class names the first is reported. -/
theorem classes_fixed_roles_stay_first_grant :
    let alice : Principal := ⟨"alice", by decide⟩
    let bob : Principal := ⟨"bob", by decide⟩
    let before : List Event :=
      [.openHandle ⟨0⟩ alice.text, .call ⟨0⟩ ⟨0⟩ .begin,
        .call ⟨0⟩ ⟨0⟩ (.grantOnClass "Folder" "editors" .all), .call ⟨0⟩ ⟨0⟩ .commit]
    let later : List Event := [.openHandle ⟨1⟩ bob.text, .call ⟨1⟩ ⟨1⟩ .begin]
    ∃ start : Store, Store.ofClasses ⟨0⟩ ["Folder", "Document"] = .ok start ∧
      (∃ found, found.name = "editors" ∧
        (start.run (before ++ later)).2.read ⟨1⟩ ⟨1⟩ (.findRole "editors") =
          .called (.ok (.keptRole (some found)))) ∧
      Store.ofClasses ⟨0⟩ ["Document", " ", "Document"] = .error .blankName := by
  intro alice bob before later
  have hnew : Store.ofClasses ⟨0⟩ ["Folder", "Document"] = .ok _ := rfl
  refine ⟨_, hnew, ?_, ?_⟩
  · have hgrows := ((classes_fixed_roles_stay _ _).2.2 _ hnew).2 before later "editors"
    simp only [before, later, List.cons_append, List.nil_append, run_cons, step_openHandle,
      Principal.parse_text] at hgrows ⊢
    obtain ⟨-, hfinds⟩ := hgrows (by decide +kernel)
    exact hfinds ⟨1⟩ _ (Option.some_get (by decide +kernel)).symm ⟨1⟩
  · refine ((classes_fixed_roles_stay _ _).2.1 _).2
      ⟨["Document"], " ", ["Document"], rfl, ⟨?_, ?_⟩, .blank ?_⟩ <;> decide +kernel

end Store

end StoreAccess
