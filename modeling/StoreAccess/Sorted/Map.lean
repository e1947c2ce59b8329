/-!
# Maps kept in key order

A `SortedMap` is a list of entries whose keys ascend strictly, so a key has at most one entry,
the entries come out in key order, and two maps with the same look-ups are equal.

Main statements: `get?_insert` and `get?_erase`, the look-ups after a change, and `ext_get?`.
-/

namespace StoreAccess

open Std

/-- Entries in strictly ascending order of their keys. -/
structure SortedMap (κ ν : Type) [Ord κ] where
  entries : List (κ × ν)
  ascending : entries.Pairwise fun a b => compare a.1 b.1 = .lt

namespace SortedMap

/-! ## The operations on lists of entries -/

section Entries

variable {κ ν : Type} [Ord κ]

/-- The value under a key. -/
def findEntry (k : κ) : List (κ × ν) → Option ν
  | [] => none
  | e :: es => if compare k e.1 = .eq then some e.2 else findEntry k es

/-- Puts a value in the place of its key, over the one that stands there. -/
def putEntry (k : κ) (v : ν) : List (κ × ν) → List (κ × ν)
  | [] => [(k, v)]
  | e :: es =>
    match compare k e.1 with
    | .lt => (k, v) :: e :: es
    | .eq => (k, v) :: es
    | .gt => e :: putEntry k v es

theorem mem_putEntry {k : κ} {v : ν} {x : κ × ν} {es : List (κ × ν)}
    (h : x ∈ putEntry k v es) : x = (k, v) ∨ x ∈ es := by
  induction es with
  | nil => simpa [putEntry] using h
  | cons e es ih =>
    unfold putEntry at h
    split at h
    · simpa using h
    · rcases List.mem_cons.1 h with h | h
      · exact .inl h
      · exact .inr (List.mem_cons_of_mem _ h)
    · rcases List.mem_cons.1 h with h | h
      · exact .inr (h ▸ List.mem_cons_self)
      · rcases ih h with h | h
        · exact .inl h
        · exact .inr (List.mem_cons_of_mem _ h)

theorem pairwise_putEntry [TransOrd κ] (k : κ) (v : ν) {es : List (κ × ν)}
    (h : es.Pairwise fun a b => compare a.1 b.1 = .lt) :
    (putEntry k v es).Pairwise fun a b => compare a.1 b.1 = .lt := by
  induction es with
  | nil => simp [putEntry]
  | cons e es ih =>
    obtain ⟨hhead, htail⟩ := List.pairwise_cons.1 h
    unfold putEntry
    split
    · rename_i hlt
      refine List.pairwise_cons.2 ⟨fun x hx => ?_, h⟩
      rcases List.mem_cons.1 hx with rfl | hx
      · exact hlt
      · exact TransCmp.lt_trans hlt (hhead x hx)
    · rename_i heq
      exact List.pairwise_cons.2
        ⟨fun x hx => TransCmp.lt_of_eq_of_lt heq (hhead x hx), htail⟩
    · rename_i hgt
      refine List.pairwise_cons.2 ⟨fun x hx => ?_, ih htail⟩
      rcases mem_putEntry hx with rfl | hx
      · exact OrientedCmp.gt_iff_lt.1 hgt
      · exact hhead x hx

theorem findEntry_putEntry [TransOrd κ] [LawfulEqOrd κ] [DecidableEq κ] (k k' : κ) (v : ν)
    (es : List (κ × ν)) :
    findEntry k' (putEntry k v es) = if k' = k then some v else findEntry k' es := by
  induction es with
  | nil => simp [putEntry, findEntry]
  | cons e es ih =>
    unfold putEntry
    split
    · simp [findEntry]
    · rename_i heq
      have hk : k = e.1 := LawfulEqCmp.eq_of_compare heq
      by_cases h : k' = k
      · simp [findEntry, h]
      · have : k' ≠ e.1 := hk ▸ h
        simp [findEntry, h, this]
    · rename_i hgt
      by_cases h : k' = e.1
      · have : ¬ k' = k := by
          rintro rfl
          simp [← h] at hgt
        simp [findEntry, ← h, this]
      · simp [findEntry, h, ih]

theorem findEntry_filter_ne [LawfulEqOrd κ] [DecidableEq κ] (k k' : κ)
    (es : List (κ × ν)) :
    findEntry k' (es.filter fun e => compare k e.1 != .eq) =
      if k' = k then none else findEntry k' es := by
  induction es with
  | nil => simp [findEntry]
  | cons e es ih =>
    rw [List.filter_cons]
    by_cases hk : k = e.1
    · have hdrop : (compare k e.1 != .eq) = false := by simp [hk]
      rw [hdrop]
      by_cases h : k' = k
      · simpa [h] using ih
      · have : k' ≠ e.1 := hk ▸ h
        simpa [findEntry, this, h] using ih
    · have hkeep : (compare k e.1 != .eq) = true := by simp [hk]
      rw [hkeep]
      by_cases h : k' = e.1
      · have : ¬ k' = k := fun hc => hk (hc ▸ h)
        simp [findEntry, h, Ne.symm hk]
      · simp [findEntry, h, ih]

theorem findEntry_eq_some_iff [TransOrd κ] [LawfulEqOrd κ] {es : List (κ × ν)}
    (h : es.Pairwise fun a b => compare a.1 b.1 = .lt) {k : κ} {v : ν} :
    findEntry k es = some v ↔ (k, v) ∈ es := by
  induction es with
  | nil => simp [findEntry]
  | cons e es ih =>
    obtain ⟨hhead, htail⟩ := List.pairwise_cons.1 h
    by_cases hk : k = e.1
    · subst hk
      constructor
      · intro hv
        have hv : e.2 = v := by simpa [findEntry] using hv
        exact hv ▸ List.mem_cons_self
      · intro hmem
        rcases List.mem_cons.1 hmem with hmem | hmem
        · have hv : e.2 = v := hmem ▸ rfl
          simp [findEntry, hv]
        · have := hhead _ hmem
          simp at this
    · have : (k, v) ≠ e := fun hc => hk (hc ▸ rfl)
      simp [findEntry, hk, ih htail, this]

/-- Ascending lists of entries with the same members are the same list. -/
theorem eq_of_mem_iff [TransOrd κ] {es fs : List (κ × ν)}
    (hes : es.Pairwise fun a b => compare a.1 b.1 = .lt)
    (hfs : fs.Pairwise fun a b => compare a.1 b.1 = .lt)
    (h : ∀ x, x ∈ es ↔ x ∈ fs) : es = fs := by
  induction es generalizing fs with
  | nil =>
    cases fs with
    | nil => rfl
    | cons f fs => exact absurd ((h f).2 List.mem_cons_self) (by simp)
  | cons e es ih =>
    cases fs with
    | nil => exact absurd ((h e).1 List.mem_cons_self) (by simp)
    | cons f fs =>
      obtain ⟨hehead, hetail⟩ := List.pairwise_cons.1 hes
      obtain ⟨hfhead, hftail⟩ := List.pairwise_cons.1 hfs
      have irrefl : ∀ x : κ × ν, compare x.1 x.1 ≠ .lt := by simp
      have hef : e = f := by
        rcases List.mem_cons.1 ((h e).1 List.mem_cons_self) with hef | hef
        · exact hef
        · rcases List.mem_cons.1 ((h f).2 List.mem_cons_self) with hfe | hfe
          · exact hfe.symm
          · exact absurd (TransCmp.lt_trans (hfhead e hef) (hehead f hfe)) (irrefl f)
      subst hef
      congr 1
      refine ih hetail hftail fun x => ⟨fun hx => ?_, fun hx => ?_⟩
      · rcases List.mem_cons.1 ((h x).1 (List.mem_cons_of_mem _ hx)) with hxe | hx'
        · exact absurd (hxe ▸ hehead x hx) (irrefl e)
        · exact hx'
      · rcases List.mem_cons.1 ((h x).2 (List.mem_cons_of_mem _ hx)) with hxe | hx'
        · exact absurd (hxe ▸ hfhead x hx) (irrefl e)
        · exact hx'

end Entries

/-! ## The operations on maps -/

variable {κ ν : Type} [Ord κ]

def empty : SortedMap κ ν := ⟨[], .nil⟩

/-- The value under a key. -/
def get? (m : SortedMap κ ν) (k : κ) : Option ν := findEntry k m.entries

def contains (m : SortedMap κ ν) (k : κ) : Bool := (m.get? k).isSome

/-- The keys, ascending. -/
def keys (m : SortedMap κ ν) : List κ := m.entries.map (·.1)

/-- The values in the order of their keys. -/
def values (m : SortedMap κ ν) : List ν := m.entries.map (·.2)

/-- The map with a value under a key, in place of any it had there. -/
def insert [TransOrd κ] (m : SortedMap κ ν) (k : κ) (v : ν) : SortedMap κ ν :=
  ⟨putEntry k v m.entries, pairwise_putEntry k v m.ascending⟩

def erase (m : SortedMap κ ν) (k : κ) : SortedMap κ ν :=
  ⟨m.entries.filter fun e => compare k e.1 != .eq, m.ascending.filter _⟩

/-- Inserts one entry after the other, so that of equal keys the last stays. -/
def ofList [TransOrd κ] (entries : List (κ × ν)) : SortedMap κ ν :=
  entries.foldl (fun m e => m.insert e.1 e.2) empty

instance : EmptyCollection (SortedMap κ ν) := ⟨empty⟩

instance : Inhabited (SortedMap κ ν) := ⟨empty⟩

instance [DecidableEq κ] [DecidableEq ν] : DecidableEq (SortedMap κ ν) := fun m n =>
  decidable_of_iff (m.entries = n.entries) (by cases m; cases n; simp)

instance [Repr κ] [Repr ν] : Repr (SortedMap κ ν) := ⟨fun m => reprPrec m.entries⟩

@[ext] theorem ext {m n : SortedMap κ ν} (h : m.entries = n.entries) : m = n := by
  cases m
  cases n
  simpa using h

@[simp] theorem get?_empty (k : κ) : (empty : SortedMap κ ν).get? k = none := rfl

theorem get?_erase [LawfulEqOrd κ] [DecidableEq κ] (m : SortedMap κ ν) (k k' : κ) :
    (m.erase k).get? k' = if k' = k then none else m.get? k' :=
  findEntry_filter_ne k k' m.entries

theorem get?_of_get?_erase [LawfulEqOrd κ] [DecidableEq κ] {m : SortedMap κ ν} {k k' : κ} {v : ν}
    (h : (m.erase k).get? k' = some v) : m.get? k' = some v := by
  rw [get?_erase] at h
  split at h
  · cases h
  · exact h

theorem contains_of_get? {m : SortedMap κ ν} {k : κ} {v : ν} (h : m.get? k = some v) :
    m.contains k = true := by
  rw [contains, h, Option.isSome_some]

section Lawful

variable [TransOrd κ] [LawfulEqOrd κ]

theorem get?_insert [DecidableEq κ] (m : SortedMap κ ν) (k k' : κ) (v : ν) :
    (m.insert k v).get? k' = if k' = k then some v else m.get? k' :=
  findEntry_putEntry k k' v m.entries

/-- What holds of all entries still does after an insertion, if it holds of the new one. -/
theorem of_get?_insert [DecidableEq κ] {P : κ → ν → Prop} {m : SortedMap κ ν} {k k' : κ} {v v' : ν}
    (hnew : P k v) (hold : ∀ {k v}, m.get? k = some v → P k v)
    (h : (m.insert k v).get? k' = some v') : P k' v' := by
  rw [get?_insert] at h
  split at h
  · next hk =>
    rw [hk, ← Option.some.inj h]
    exact hnew
  · exact hold h

theorem contains_insert [DecidableEq κ] (m : SortedMap κ ν) (k k' : κ) (v : ν) :
    (m.insert k v).contains k' = (decide (k' = k) || m.contains k') := by
  by_cases h : k' = k <;> simp [contains, get?_insert, h]

theorem contains_insert_of_get? [DecidableEq κ] {m : SortedMap κ ν} {k : κ} {v v' : ν}
    (h : m.get? k = some v) (k' : κ) : (m.insert k v').contains k' = m.contains k' := by
  rw [contains_insert]
  by_cases hk : k' = k
  · rw [hk, contains_of_get? h, Bool.or_true]
  · rw [decide_eq_false hk, Bool.false_or]

theorem get?_eq_some_iff {m : SortedMap κ ν} {k : κ} {v : ν} :
    m.get? k = some v ↔ (k, v) ∈ m.entries :=
  findEntry_eq_some_iff m.ascending

/-- Maps with the same look-ups are equal. -/
theorem ext_get? {m n : SortedMap κ ν} (h : ∀ k, m.get? k = n.get? k) : m = n := by
  refine ext (eq_of_mem_iff m.ascending n.ascending fun x => ?_)
  rw [← get?_eq_some_iff, ← get?_eq_some_iff, h]

theorem erase_of_get?_none [DecidableEq κ] {m : SortedMap κ ν} {k : κ} (h : m.get? k = none) :
    m.erase k = m := by
  refine ext_get? fun k' => ?_
  rw [get?_erase]
  split
  · next hk => rw [hk, h]
  · rfl

theorem insert_of_get? [DecidableEq κ] {m : SortedMap κ ν} {k : κ} {v : ν} (h : m.get? k = some v) :
    m.insert k v = m := by
  refine ext_get? fun k' => ?_
  rw [get?_insert]
  split
  · next hk => rw [hk, h]
  · rfl

theorem mem_keys_iff {m : SortedMap κ ν} {k : κ} : k ∈ m.keys ↔ m.contains k = true := by
  simp only [keys, contains, List.mem_map, Prod.exists, exists_and_right, exists_eq_right,
    Option.isSome_iff_exists, get?_eq_some_iff]

end Lawful

theorem keys_ascending (m : SortedMap κ ν) : m.keys.Pairwise fun a b => compare a b = .lt :=
  m.ascending.map _ fun _ _ h => h

end SortedMap

end StoreAccess
