import StoreAccess.Json.Domain

/-!
# What is stored is read back

Reading accepts many forms of a value: records as arrays or with their members in any order, cases
as objects, identifiers in several spellings, members of a role repeated and unsorted. Writing has
one. `LawfulJsonForm` says that the written form of a value is read back as the value; it is shown
for each type from the types of its parts, so that whatever form a value was read from, writing it
settles on a form that is read as the same value and written the same again.

Main statement: `stored_forms_settle`.
-/

namespace StoreAccess

open JsonForm

/-- What is written is read back. -/
class LawfulJsonForm (α : Type) [JsonForm α] : Prop where
  ofJson?_toJson : ∀ a : α, ofJson? (toJson a) = some a

namespace JsonForm

variable {α : Type} [JsonForm α] [LawfulJsonForm α]

@[simp] theorem ofJson?_toJson (a : α) : ofJson? (toJson a) = some a :=
  LawfulJsonForm.ofJson?_toJson a

@[simp] theorem required_toJson (a : α) : required (some (toJson a)) = some a :=
  ofJson?_toJson a

/-! ## Plain values -/

instance : LawfulJsonForm Bool := ⟨fun _ => rfl⟩

instance : LawfulJsonForm String := ⟨fun _ => rfl⟩

theorem mapM_ofJson?_toJson (values : List α) :
    (values.map toJson).mapM (ofJson? : Json → Option α) = some values := by
  induction values with
  | nil => rfl
  | cons value values ih => simp [List.mapM_cons, ih]

instance : LawfulJsonForm (List α) := ⟨fun values => mapM_ofJson?_toJson values⟩

/-- A value that may be missing is read back, as long as none is written as null. -/
theorem ifPresent_toJson (hnull : ∀ a : α, toJson a ≠ .null) (a? : Option α) :
    ifPresent (some (toJson a?)) = some a? := by
  cases a? with
  | none => rfl
  | some a =>
    have hvalue : toJson (some a) = toJson a := rfl
    rw [hvalue]
    unfold ifPresent
    split
    · next heq => cases heq
    · next heq => exact absurd (Option.some.inj heq) (hnull a)
    · next heq =>
      obtain rfl := Option.some.inj heq
      rw [ofJson?_toJson, Option.map_some]

end JsonForm

/-! ## Identifiers -/

instance : LawfulJsonForm Principal where
  ofJson?_toJson p := by
    simp only [toJson, ofJson?, Json.toString?, Option.bind_some, Principal.parse_text]
    rfl

instance : LawfulJsonForm Label := ⟨fun _ => rfl⟩

instance : LawfulJsonForm StoreId where
  ofJson?_toJson id := by
    simp only [toJson, ofJson?, Json.toString?, Option.bind_some, StoreId.parse?_text]

instance : LawfulJsonForm ObjectKey where
  ofJson?_toJson key := by
    have hlt : key.number.toNat < UInt64.size := key.number.toNat_lt
    simp [toJson, ofJson?, hlt]

instance : LawfulJsonForm ObjectRef where
  ofJson?_toJson object := by
    have hmembers : (toJson object).members? ["store_id", "class_name", "key"] =
        some [some (toJson object.storeId), some (toJson object.className),
          some (toJson object.key)] := rfl
    have hstoreId : ifPresent (some (toJson object.storeId)) = some object.storeId :=
      ifPresent_toJson (fun id => by simp [toJson]) object.storeId
    simp only [ofJson?, hmembers, Option.bind_eq_bind, Option.bind_some, hstoreId,
      required_toJson]
    rfl

/-! ## Capabilities -/

instance : LawfulJsonForm Capability := ⟨fun c => Capability.ofName?_name c⟩

instance : LawfulJsonForm ScopeKind := ⟨fun kind => ScopeKind.ofName?_name kind⟩

instance : LawfulJsonForm CapabilitySet where
  ofJson?_toJson s := by
    have hmembers : (toJson s).members? (Capability.all.map Capability.flagName) =
        some (s.flags.map fun flag => some (toJson flag)) := rfl
    have hflags : (s.flags.map fun flag => some (toJson flag)).mapM required = some s.flags := by
      simp [CapabilitySet.flags]
    simp only [ofJson?, hmembers, hflags, Option.bind_eq_bind, Option.bind_some]
    rfl

instance : LawfulJsonForm Privileges where
  ofJson?_toJson p := by
    have hread : ofJson? (toJson p) = (ofJson? (toJson p.capabilities)).map Privileges.mk := rfl
    rw [hread, ofJson?_toJson, Option.map_some]

/-! ## Roles and grants -/

instance : LawfulJsonForm Role where
  ofJson?_toJson role := by
    have hmembers : (toJson role).members? ["name", "members"] =
        some [some (toJson role.name), some (toJson role.members.toList)] := rfl
    simp only [ofJson?, hmembers, Option.bind_eq_bind, Option.bind_some, required_toJson,
      SortedSet.ofList_toList]
    rfl

instance : LawfulJsonForm Grant where
  ofJson?_toJson g := by
    have hmembers : (toJson g).members? ["role", "capabilities"] =
        some [some (toJson g.role), some (toJson g.capabilities)] := rfl
    simp only [ofJson?, hmembers, Option.bind_eq_bind, Option.bind_some, required_toJson]
    rfl

instance : LawfulJsonForm GrantList where
  ofJson?_toJson l := by
    have hread : ofJson? (toJson l) = (ofJson? (toJson l.entries)).map GrantList.mk := rfl
    rw [hread, ofJson?_toJson, Option.map_some]

instance : LawfulJsonForm RealmGrants where
  ofJson?_toJson realm := by
    have hmembers : (toJson realm).members? ["permissions"] =
        some [some (toJson realm.grants)] := rfl
    simp only [ofJson?, hmembers, Option.bind_eq_bind, Option.bind_some, required_toJson]
    rfl

instance : LawfulJsonForm ClassGrants where
  ofJson?_toJson c := by
    have hmembers : (toJson c).members? ["name", "permissions"] =
        some [some (toJson c.className), some (toJson c.grants)] := rfl
    simp only [ofJson?, hmembers, Option.bind_eq_bind, Option.bind_some, required_toJson]
    rfl

/-! ## Identifiers that are refused -/

/-- A principal is not read from a text that is no identifier. -/
theorem principal_of_refused {text : String} {error : AccessError}
    (h : Principal.parse text = .error error) :
    (ofJson? (.string text) : Option Principal) = none := by
  simp only [ofJson?, Json.toString?, Option.bind_some, h]
  rfl

/-- One item that is not read spoils the whole list. -/
theorem list_of_refused {α : Type} [JsonForm α] {items : List Json} {item : Json}
    (hmem : item ∈ items) (h : (ofJson? item : Option α) = none) :
    (ofJson? (.array items) : Option (List α)) = none := by
  have hread : (ofJson? (.array items) : Option (List α)) = items.mapM ofJson? := rfl
  rw [hread]
  induction items with
  | nil => cases hmem
  | cons other items ih =>
    rw [List.mapM_cons]
    rcases List.mem_cons.1 hmem with rfl | hmem
    · rw [h]
      rfl
    · rw [ih hmem rfl]
      cases (ofJson? other : Option α) <;> rfl

/-- A role is not read where one of its members is no identifier, however the record is written. -/
theorem role_of_refused {j : Json} {name? : Option Json} {items : List Json} {text : String}
    {error : AccessError}
    (hmembers : j.members? ["name", "members"] = some [name?, some (.array items)])
    (hmem : .string text ∈ items) (h : Principal.parse text = .error error) :
    (ofJson? j : Option Role) = none := by
  have hlist : (required (some (.array items)) : Option (List Principal)) = none :=
    list_of_refused hmem (principal_of_refused h)
  simp only [ofJson?, hmembers, Option.bind_eq_bind, Option.bind_some, hlist]
  rfl

/-! ## All types -/

/-- The written form of a value is read back as the value. Whatever a value was read from, its
written form is read as the same value, and that is written as the form it was read from. -/
structure SettledForm (α : Type) [JsonForm α] : Prop where
  read_written : ∀ a : α, ofJson? (toJson a) = some a
  rewritten : ∀ (j : Json) (a : α), ofJson? j = some a →
    ofJson? (toJson a) = some a ∧ ∀ b : α, ofJson? (toJson a) = some b → toJson b = toJson a

theorem settledForm (α : Type) [JsonForm α] [LawfulJsonForm α] : SettledForm α where
  read_written a := ofJson?_toJson a
  rewritten j a _ := by
    refine ⟨ofJson?_toJson a, fun b hb => ?_⟩
    rw [ofJson?_toJson] at hb
    rw [Option.some.inj hb]

/-- **Stored forms settle.** For every type that is stored, what is written is read back, and
whatever is read, in any of the forms that are accepted, is written in a form that is read as the
same value and written the same again. A text that is refused as an identifier is never read as a
principal, and no role is read that has it among its members. -/
theorem stored_forms_settle :
    (SettledForm Principal ∧ SettledForm Label ∧ SettledForm StoreId ∧ SettledForm Capability ∧
      SettledForm ScopeKind ∧ SettledForm CapabilitySet ∧ SettledForm Privileges ∧
      SettledForm Grant ∧ SettledForm Role ∧ SettledForm GrantList ∧ SettledForm RealmGrants ∧
      SettledForm ClassGrants ∧ SettledForm ObjectKey ∧ SettledForm ObjectRef) ∧
    ∀ text error, Principal.parse text = .error error →
      (ofJson? (.string text) : Option Principal) = none ∧
      ∀ (j : Json) (name? : Option Json) (items : List Json),
        j.members? ["name", "members"] = some [name?, some (.array items)] →
          .string text ∈ items → (ofJson? j : Option Role) = none := by
  refine ⟨⟨settledForm _, settledForm _, settledForm _, settledForm _, settledForm _,
    settledForm _, settledForm _, settledForm _, settledForm _, settledForm _, settledForm _,
    settledForm _, settledForm _, settledForm _⟩, fun text error hrefused => ⟨?_, ?_⟩⟩
  · exact principal_of_refused hrefused
  · exact fun j name? items hmembers hmem => role_of_refused hmembers hmem hrefused

/-- A role stored as an array, with members unsorted and repeated; a reference with its members in
another order, one more beside them, and an identifier in braces; and a role with a member whose
identifier has a space. -/
theorem stored_forms_settle_unusual :
    let alice : Principal := ⟨"alice", by decide⟩
    let bob : Principal := ⟨"bob", by decide⟩
    let editors : Role := ⟨"editors", (SortedSet.empty.insert alice).insert bob⟩
    let document : ObjectRef := .managed ⟨0x0000000000004000800000000000ABCD⟩ "Document" ⟨7⟩
    let role : Json :=
      .array [.string "editors", .array [.string "bob", .string "alice", .string "bob"]]
    let reference : Json := .object
      [("key", .number 7 0), ("note", .null), ("class_name", .string "Document"),
        ("store_id", .string "\x7b00000000-0000-4000-8000-00000000ABCD\x7d")]
    let refused : Json :=
      .object [("members", .array [.string "alice", .string "b ob"]), ("name", .string "editors")]
    (ofJson? role = some editors ∧ ofJson? (toJson editors) = some editors) ∧
    (ofJson? reference = some document ∧ ofJson? (toJson document) = some document) ∧
    (ofJson? refused : Option Role) = none := by
  intro alice bob editors document role reference refused
  obtain ⟨⟨-, -, -, -, -, -, -, -, hrole, -, -, -, -, hreference⟩, hrefused⟩ := stored_forms_settle
  have hread : ofJson? role = some editors := by decide +kernel
  have hread' : ofJson? reference = some document := by decide +kernel
  refine ⟨⟨hread, (hrole.rewritten role editors hread).1⟩,
    ⟨hread', (hreference.rewritten reference document hread').1⟩, ?_⟩
  obtain ⟨error, hspace⟩ : ∃ error, Principal.parse "b ob" = .error error := ⟨_, rfl⟩
  exact (hrefused "b ob" error hspace).2 refused _ _ rfl (by simp)

end StoreAccess
