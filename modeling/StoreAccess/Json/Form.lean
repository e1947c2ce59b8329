import StoreAccess.Json.Basic

/-!
# Types with a JSON form

A `JsonForm` says how the values of a type are written as JSON and read again. Reading accepts
more than is written: members in any order, other members beside them, and arrays for records.
-/

namespace StoreAccess

/-- How the values of a type are written as JSON and read again. -/
class JsonForm (α : Type) where
  toJson : α → Json
  ofJson? : Json → Option α

namespace JsonForm

/-- Reads a member that must be there. -/
def required {α : Type} [JsonForm α] (member? : Option Json) : Option α :=
  member?.bind ofJson?

/-- Reads a member that may be missing or null. -/
def ifPresent {α : Type} [JsonForm α] : Option Json → Option (Option α)
  | none => some none
  | some .null => some none
  | some j => (ofJson? j).map some

/-- Reads a case without content by its name. -/
def ofCase? {α : Type} (ofName? : String → Option α) (j : Json) : Option α :=
  j.caseName?.bind ofName?

instance : JsonForm Bool := ⟨.bool, Json.toBool?⟩

instance : JsonForm String := ⟨.string, Json.toString?⟩

instance {α : Type} [JsonForm α] : JsonForm (List α) where
  toJson values := .array (values.map toJson)
  ofJson? j := j.toList?.bind fun items => items.mapM ofJson?

instance {α : Type} [JsonForm α] : JsonForm (Option α) where
  toJson
    | none => .null
    | some value => toJson value
  ofJson? j := ifPresent (some j)

end JsonForm

end StoreAccess
