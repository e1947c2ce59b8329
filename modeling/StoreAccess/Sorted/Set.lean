import StoreAccess.Sorted.Map

/-!
# Sets kept in order

A `SortedSet` is a sorted map whose entries carry nothing.
-/

namespace StoreAccess

open Std

/-- A set whose members come out in strictly ascending order. -/
structure SortedSet (α : Type) [Ord α] where
  marks : SortedMap α Unit

namespace SortedSet

variable {α : Type} [Ord α]

def empty : SortedSet α := ⟨.empty⟩

def contains (s : SortedSet α) (a : α) : Bool := s.marks.contains a

/-- The members, ascending. -/
def toList (s : SortedSet α) : List α := s.marks.keys

def size (s : SortedSet α) : Nat := s.toList.length

/-- The set with a member more, if it was none. -/
def insert [TransOrd α] (s : SortedSet α) (a : α) : SortedSet α := ⟨s.marks.insert a ()⟩

def erase (s : SortedSet α) (a : α) : SortedSet α := ⟨s.marks.erase a⟩

def ofList [TransOrd α] (values : List α) : SortedSet α := values.foldl insert empty

instance : EmptyCollection (SortedSet α) := ⟨empty⟩

instance : Inhabited (SortedSet α) := ⟨empty⟩

instance [DecidableEq α] : DecidableEq (SortedSet α) := fun s t =>
  decidable_of_iff (s.marks = t.marks) (by cases s; cases t; simp)

instance [Repr α] : Repr (SortedSet α) := ⟨fun s => reprPrec s.toList⟩

@[ext] theorem ext {s t : SortedSet α} (h : s.marks = t.marks) : s = t := by
  cases s
  cases t
  simpa using h

@[simp] theorem contains_empty (a : α) : (empty : SortedSet α).contains a = false := rfl

theorem toList_ascending (s : SortedSet α) : s.toList.Pairwise fun a b => compare a b = .lt :=
  s.marks.keys_ascending

theorem contains_erase [LawfulEqOrd α] [DecidableEq α] (s : SortedSet α)
    (a b : α) :
    (s.erase a).contains b = (!decide (b = a) && s.contains b) := by
  by_cases h : b = a <;> simp [contains, erase, SortedMap.contains, SortedMap.get?_erase, h]

section Lawful

variable [TransOrd α] [LawfulEqOrd α]

theorem contains_insert [DecidableEq α] (s : SortedSet α) (a b : α) :
    (s.insert a).contains b = (decide (b = a) || s.contains b) := by
  by_cases h : b = a <;> simp [contains, insert, SortedMap.contains, SortedMap.get?_insert, h]

theorem mem_toList_iff {s : SortedSet α} {a : α} : a ∈ s.toList ↔ s.contains a = true :=
  SortedMap.mem_keys_iff

/-- Sets with the same members are equal. -/
theorem ext_contains {s t : SortedSet α} (h : ∀ a, s.contains a = t.contains a) : s = t := by
  refine ext (SortedMap.ext_get? fun a => ?_)
  have := h a
  simp only [contains, SortedMap.contains] at this
  cases hs : s.marks.get? a <;> cases ht : t.marks.get? a <;> simp_all

theorem contains_ofList [DecidableEq α] (values : List α) (a : α) :
    (ofList values).contains a = true ↔ a ∈ values := by
  -- The induction carries what was inserted before.
  have key : ∀ s : SortedSet α,
      (values.foldl insert s).contains a = true ↔ s.contains a = true ∨ a ∈ values := by
    induction values with
    | nil => simp
    | cons value values ih =>
      intro s
      rw [List.foldl_cons, ih, contains_insert, Bool.or_eq_true, decide_eq_true_iff,
        List.mem_cons, or_assoc, or_left_comm]
  rw [ofList, key]
  simp

/-- A set is made up of its members, in whatever order they are put in. -/
theorem ofList_toList [DecidableEq α] (s : SortedSet α) : ofList s.toList = s := by
  refine ext_contains fun a => Bool.eq_iff_iff.2 ?_
  rw [contains_ofList, mem_toList_iff]

end Lawful

end SortedSet

end StoreAccess
