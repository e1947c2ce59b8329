import StoreAccess.Text.Blank

/-!
# Lists written with separators

`items` reads a list whose items stand between separators: each item is trimmed and blank items
do not count. `splitFirst` cuts at the first separator only.

Main statements: `splitFirst_eq_some_iff` and `splitFirst_eq_none_iff`.
-/

namespace StoreAccess.Text

/-- The parts before and after the first separator, if there is one. -/
def splitFirst (separator : Char) : List Char → Option (List Char × List Char)
  | [] => none
  | c :: cs =>
    if c = separator then some ([], cs)
    else (splitFirst separator cs).map fun parts => (c :: parts.1, parts.2)

theorem splitFirst_eq_none_iff {separator : Char} {cs : List Char} :
    splitFirst separator cs = none ↔ separator ∉ cs := by
  induction cs with
  | nil => simp [splitFirst]
  | cons c cs ih =>
    by_cases h : c = separator
    · simp [splitFirst, h]
    · simp [splitFirst, h, ih, Ne.symm h]

theorem splitFirst_eq_some_iff {separator : Char} {cs before after : List Char} :
    splitFirst separator cs = some (before, after) ↔
      separator ∉ before ∧ cs = before ++ separator :: after := by
  induction cs generalizing before with
  | nil => simp [splitFirst]
  | cons c cs ih =>
    by_cases h : c = separator
    · subst h
      cases before with
      | nil => simp [splitFirst, eq_comm]
      | cons b bs =>
        simp only [splitFirst, if_true, Option.some.injEq, Prod.mk.injEq]
        constructor
        · rintro ⟨h, -⟩
          cases h
        · rintro ⟨hnot, hcs⟩
          simp only [List.cons_append, List.cons.injEq] at hcs
          simp [hcs.1] at hnot
    · cases before with
      | nil => simp [splitFirst, h]
      | cons b bs =>
        simp only [splitFirst, h, if_false, Option.map_eq_some_iff, Prod.exists, Prod.mk.injEq,
          List.cons.injEq, List.cons_append, List.mem_cons, not_or]
        constructor
        · rintro ⟨x, y, hxy, ⟨rfl, rfl⟩, rfl⟩
          obtain ⟨hnot, hcs⟩ := ih.1 hxy
          exact ⟨⟨Ne.symm h, hnot⟩, rfl, hcs⟩
        · rintro ⟨⟨-, hnot⟩, rfl, hcs⟩
          exact ⟨bs, after, ih.2 ⟨hnot, hcs⟩, ⟨rfl, rfl⟩, rfl⟩

/-- The non-blank items of a list with separators, each trimmed, in order. -/
def items (separator : Char) (text : String) : List String :=
  ((text.toList.splitOn separator).map fun item => String.ofList (trimmed item)).filter (· ≠ "")

end StoreAccess.Text
