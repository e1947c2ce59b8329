import StoreAccess.Grant
import StoreAccess.Scope

/-!
# The default policy

Where no grant speaks of the role *everyone*, a template takes its place: all capabilities on a
store, and all but creating and deleting on a class or an object. `shown` shows a list
with that unwritten entry in front.

Main statements: `template_allows`, and `fallback?_eq`, when the template takes the place.
-/

namespace StoreAccess.Policy

/-- What the template of a kind of scope allows. -/
def template : ScopeKind → CapabilitySet
  | .store => .all
  | .ofClass | .object => (CapabilitySet.all.clear .create).clear .delete

/-- The template, if the list does not speak of everyone. -/
def fallback? (kind : ScopeKind) (l : GrantList) : Option CapabilitySet :=
  if (l.find? everyoneName).isNone then some (template kind) else none

/-- The list as it is shown: with an entry for everyone in front if it has none. -/
def shown (kind : ScopeKind) (l : GrantList) : GrantList :=
  match fallback? kind l with
  | some capabilities => .ofList (Grant.toRole .everyone capabilities :: l.entries)
  | none => l

theorem template_allows (kind : ScopeKind) (c : Capability) :
    (template kind).allows c = true ↔ kind = .store ∨ c ≠ .create ∧ c ≠ .delete := by
  cases kind <;> cases c <;> simp [template]

theorem fallback?_eq (kind : ScopeKind) (l : GrantList) :
    fallback? kind l = if everyoneName ∈ l.roles then none else some (template kind) := by
  by_cases h : everyoneName ∈ l.roles
  · have hfound : l.find? everyoneName ≠ none := fun hnone => GrantList.find?_eq_none_iff.1 hnone h
    simp [fallback?, h, hfound]
  · simp [fallback?, h, GrantList.find?_eq_none_iff.2 h]

end StoreAccess.Policy
