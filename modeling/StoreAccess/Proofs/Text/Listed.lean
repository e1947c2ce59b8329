import StoreAccess.Proofs.Steps
import StoreAccess.Text.Split

/-!
# Lists as they are written

A list is written as parts with a separator between them. A part is an item with white space
around it, or blank, and then it does not count. `Listed` says which texts are a list of which
things, given how one thing is written as a part.

Main statement: `Reads.mapM_items_eq_ok_iff`, that reading the items of a text one by one gives
the things that the text lists, if a single part can be read. For texts it is `items_eq_iff`.
-/

namespace StoreAccess.Text

/-! ## White space around a text -/

/-- White space and nothing else. -/
def Blank (cs : List Char) : Prop := ∀ c ∈ cs, isWhiteSpace c = true

/-- There is no white space at either end. -/
structure IsTrimmed (cs : List Char) : Prop where
  head : ∀ c ∈ cs.head?, isWhiteSpace c = false
  last : ∀ c ∈ cs.getLast?, isWhiteSpace c = false

/-- The text with white space around it. -/
def Padded (core cs : List Char) : Prop :=
  ∃ before after, Blank before ∧ Blank after ∧ cs = before ++ core ++ after

variable {cs core before after part rest : List Char} {separator : Char}

theorem Blank.notMem (h : Blank cs) (hseparator : isWhiteSpace separator = false) :
    separator ∉ cs := fun hmem => by
  rw [h separator hmem] at hseparator
  cases hseparator

theorem padded_self (core : List Char) : Padded core core :=
  ⟨[], [], by simp [Blank], by simp [Blank], by simp⟩

theorem Padded.mem_iff (h : Padded core cs) (hseparator : isWhiteSpace separator = false) :
    separator ∈ cs ↔ separator ∈ core := by
  obtain ⟨before, after, hbefore, hafter, rfl⟩ := h
  simp [hbefore.notMem hseparator, hafter.notMem hseparator]

theorem trimmed_append_of_blank (h : Blank after) : trimmed (cs ++ after) = trimmed cs := by
  unfold trimmed
  by_cases hcs : Blank cs
  · have hall : Blank (cs ++ after) := fun c hc => (List.mem_append.1 hc).elim (hcs c) (h c)
    rw [dropWhile_eq_nil_iff.2 hall, dropWhile_eq_nil_iff.2 hcs]
  · have hne : (cs.dropWhile isWhiteSpace).isEmpty = false := by
      rw [List.isEmpty_eq_false_iff]
      exact fun hnil => hcs (dropWhile_eq_nil_iff.1 hnil)
    have hafter : ∀ c ∈ after.reverse, isWhiteSpace c = true := fun c hc =>
      h c (List.mem_reverse.1 hc)
    rw [List.dropWhile_append, hne, if_neg Bool.false_ne_true, List.reverse_append,
      List.dropWhile_append_of_pos hafter]

theorem Padded.trimmed_eq (h : Padded core cs) : trimmed cs = trimmed core := by
  obtain ⟨before, after, hbefore, hafter, rfl⟩ := h
  rw [trimmed_append_of_blank hafter, trimmed, List.dropWhile_append_of_pos hbefore, ← trimmed]

theorem padded_trimmed (cs : List Char) : Padded (trimmed cs) cs := by
  let start := cs.dropWhile isWhiteSpace
  refine ⟨cs.takeWhile isWhiteSpace, (start.reverse.takeWhile isWhiteSpace).reverse, ?_, ?_, ?_⟩
  · exact List.all_eq_true.1 List.all_takeWhile
  · exact fun c hc => List.all_eq_true.1 List.all_takeWhile c (List.mem_reverse.1 hc)
  · rw [List.append_assoc, trimmed, ← List.reverse_append, List.takeWhile_append_dropWhile,
      List.reverse_reverse, List.takeWhile_append_dropWhile]

theorem isTrimmed_trimmed (cs : List Char) : IsTrimmed (trimmed cs) where
  head c hc := by
    -- What is trimmed at the end as well begins as what is trimmed at the start only.
    have hsplit := List.takeWhile_append_dropWhile (p := isWhiteSpace)
      (l := (cs.dropWhile isWhiteSpace).reverse)
    have hstart : (cs.dropWhile isWhiteSpace).head? = some c := by
      rw [← List.reverse_reverse (cs.dropWhile isWhiteSpace), ← hsplit, List.reverse_append,
        List.head?_append]
      rw [trimmed] at hc
      simp [Option.mem_def.1 hc]
    have := List.head?_dropWhile_not isWhiteSpace cs
    rw [hstart] at this
    simpa using this
  last c hc := by
    have := List.head?_dropWhile_not isWhiteSpace (cs.dropWhile isWhiteSpace).reverse
    rw [trimmed, List.getLast?_reverse] at hc
    rw [Option.mem_def.1 hc] at this
    simpa using this

theorem isTrimmed_of_trimmed_eq (h : trimmed cs = cs) : IsTrimmed cs := h ▸ isTrimmed_trimmed cs

theorem dropWhile_of_head (h : ∀ c ∈ cs.head?, isWhiteSpace c = false) :
    cs.dropWhile isWhiteSpace = cs := by
  cases cs with
  | nil => rfl
  | cons c cs => simp [h c rfl]

theorem IsTrimmed.trimmed_eq (h : IsTrimmed cs) : trimmed cs = cs := by
  have hlast : ∀ c ∈ cs.reverse.head?, isWhiteSpace c = false := by
    rw [List.head?_reverse]
    exact h.last
  rw [trimmed, dropWhile_of_head h.head, dropWhile_of_head hlast, List.reverse_reverse]

theorem IsTrimmed.isBlank_eq_false_iff {text : String} (h : IsTrimmed text.toList) :
    isBlank text = false ↔ text ≠ "" := by
  rw [← Bool.not_eq_true, ← trim_eq_empty_iff, trim, h.trimmed_eq, String.ofList_toList]

/-- Trimming finds the text that has no white space at its ends and is padded here. -/
theorem trimmed_eq_iff : trimmed cs = core ↔ IsTrimmed core ∧ Padded core cs := by
  constructor
  · rintro rfl
    exact ⟨isTrimmed_trimmed cs, padded_trimmed cs⟩
  · rintro ⟨htrimmed, hpadded⟩
    rw [hpadded.trimmed_eq, htrimmed.trimmed_eq]

/-! ## The parts of a text -/

/-- Cutting at the first separator comes to the same before white space is taken off the ends. -/
theorem Padded.splitFirst_eq_some (h : Padded core cs)
    (hseparator : isWhiteSpace separator = false)
    (hcut : splitFirst separator core = some (before, after)) :
    ∃ before' after', splitFirst separator cs = some (before', after') ∧
      Padded before before' ∧ Padded after after' := by
  obtain ⟨front, back, hfront, hback, rfl⟩ := h
  obtain ⟨hbefore, rfl⟩ := splitFirst_eq_some_iff.1 hcut
  refine ⟨front ++ before, after ++ back, splitFirst_eq_some_iff.2 ⟨?_, by simp⟩,
    ⟨front, [], hfront, by simp [Blank], by simp⟩, ⟨[], back, by simp [Blank], hback, by simp⟩⟩
  rw [List.mem_append, not_or]
  exact ⟨hfront.notMem hseparator, hbefore⟩

theorem Padded.splitFirst_eq_none_iff (h : Padded core cs)
    (hseparator : isWhiteSpace separator = false) :
    splitFirst separator core = none ↔ splitFirst separator cs = none := by
  rw [Text.splitFirst_eq_none_iff, Text.splitFirst_eq_none_iff, h.mem_iff hseparator]

/-- What holds of texts without a separator, and of a part with a text after it, holds of all. -/
theorem separated_induction (separator : Char) {P : List Char → Prop}
    (single : ∀ part, separator ∉ part → P part)
    (cons : ∀ part rest, separator ∉ part → P rest → P (part ++ separator :: rest))
    (cs : List Char) : P cs := by
  induction h : cs.length using Nat.strongRecOn generalizing cs with
  | ind n ih =>
    cases hcut : splitFirst separator cs with
    | none => exact single cs (Text.splitFirst_eq_none_iff.1 hcut)
    | some parts =>
      obtain ⟨hpart, hcs⟩ := splitFirst_eq_some_iff.1 hcut
      rw [hcs]
      refine cons parts.1 parts.2 hpart (ih parts.2.length ?_ parts.2 rfl)
      rw [← h, hcs, List.length_append, List.length_cons]
      omega

/-- The item that a part is, if it counts. -/
def itemOf (part : List Char) : List String :=
  [String.ofList (trimmed part)].filter (· ≠ "")

theorem itemOf_of_blank (h : Blank part) : itemOf part = [] := by
  simp [itemOf, trimmed_eq_nil_iff.2 h]

theorem itemOf_of_not_blank (h : ¬ Blank part) : itemOf part = [String.ofList (trimmed part)] := by
  have hne : trimmed part ≠ [] := fun hnil => h (trimmed_eq_nil_iff.1 hnil)
  simp [itemOf, hne]

theorem Padded.itemOf_eq (h : Padded core part) : itemOf part = itemOf core := by
  rw [itemOf, itemOf, h.trimmed_eq]

theorem items_of_notMem (h : separator ∉ part) :
    items separator (.ofList part) = itemOf part := by
  rw [items, String.toList_ofList, List.splitOn_eq_singleton h]
  rfl

theorem items_append_cons (h : separator ∉ part) :
    items separator (.ofList (part ++ separator :: rest)) =
      itemOf part ++ items separator (.ofList rest) := by
  rw [items, items, String.toList_ofList, String.toList_ofList,
    List.splitOn_append_cons_self_of_not_mem h, List.map_cons, ← List.singleton_append,
    List.filter_append]
  rfl

theorem mem_items_iff {text item : String} : item ∈ items separator text ↔
    ∃ part ∈ text.toList.splitOn separator, ¬ Blank part ∧ item = .ofList (trimmed part) := by
  rw [items, List.mem_filter, List.mem_map]
  constructor
  · rintro ⟨⟨part, hpart, rfl⟩, hne⟩
    refine ⟨part, hpart, fun hblank => ?_, rfl⟩
    simp [trimmed_eq_nil_iff.2 hblank] at hne
  · rintro ⟨part, hpart, hblank, rfl⟩
    have hne : trimmed part ≠ [] := fun hnil => hblank (trimmed_eq_nil_iff.1 hnil)
    exact ⟨⟨part, hpart, rfl⟩, by simpa using hne⟩

theorem items_eq_nil_iff {text : String} :
    items separator text = [] ↔ ∀ part ∈ text.toList.splitOn separator, Blank part := by
  rw [List.eq_nil_iff_forall_not_mem]
  constructor
  · exact fun h part hpart => Classical.byContradiction fun hblank =>
      h _ (mem_items_iff.2 ⟨part, hpart, hblank, rfl⟩)
  · intro h item hitem
    obtain ⟨part, hpart, hblank, -⟩ := mem_items_iff.1 hitem
    exact hblank (h part hpart)

theorem exists_mapM_items_iff {α : Type} {text : String} {read : String → Except AccessError α} :
    (∃ as, (items separator text).mapM read = .ok as) ↔
      ∀ part ∈ text.toList.splitOn separator, ¬ Blank part →
        ∃ a, read (.ofList (trimmed part)) = .ok a := by
  rw [exists_mapM_eq_ok_iff]
  constructor
  · exact fun h part hpart hblank => h _ (mem_items_iff.2 ⟨part, hpart, hblank, rfl⟩)
  · intro h item hitem
    obtain ⟨part, hpart, hblank, rfl⟩ := mem_items_iff.1 hitem
    exact h part hpart hblank

theorem items_blank_append (h : Blank before) (hseparator : isWhiteSpace separator = false)
    (cs : List Char) : items separator (.ofList (before ++ cs)) = items separator (.ofList cs) := by
  have hpart : ∀ part, separator ∉ part →
      separator ∉ before ++ part ∧ itemOf (before ++ part) = itemOf part := fun part hpart =>
    have hpadded : Padded part (before ++ part) := ⟨before, [], h, by simp [Blank], by simp⟩
    ⟨by rwa [hpadded.mem_iff hseparator], hpadded.itemOf_eq⟩
  induction cs using separated_induction separator with
  | single part hmem =>
    rw [items_of_notMem (hpart part hmem).1, items_of_notMem hmem, (hpart part hmem).2]
  | cons part rest hmem =>
    rw [← List.append_assoc, items_append_cons (hpart part hmem).1, items_append_cons hmem,
      (hpart part hmem).2]

theorem items_append_blank (h : Blank after) (hseparator : isWhiteSpace separator = false)
    (cs : List Char) : items separator (.ofList (cs ++ after)) = items separator (.ofList cs) := by
  induction cs using separated_induction separator with
  | single part hmem =>
    have hpadded : Padded part (part ++ after) := ⟨[], after, by simp [Blank], h, by simp⟩
    rw [items_of_notMem (by rwa [hpadded.mem_iff hseparator]), items_of_notMem hmem,
      hpadded.itemOf_eq]
  | cons part rest hmem ih =>
    rw [List.append_assoc, List.cons_append, items_append_cons hmem, items_append_cons hmem, ih]

/-- White space around a list is white space around its first and its last part. -/
theorem Padded.items_eq (h : Padded core cs) (hseparator : isWhiteSpace separator = false) :
    items separator (.ofList cs) = items separator (.ofList core) := by
  obtain ⟨before, after, hbefore, hafter, rfl⟩ := h
  rw [items_append_blank hafter hseparator, items_blank_append hbefore hseparator]

/-! ## Texts that list things -/

section Listed

variable {α : Type} {a : α} {as : List α} {read : String → Except AccessError α} {Good : α → Prop}
  {Item : α → List Char → Prop}

/-- The text lists the things, with separators between them. `Item` says how one thing may be
written, and blank parts may stand anywhere. -/
inductive Listed (separator : Char) (Item : α → List Char → Prop) : List α → List Char → Prop
  | lastBlank {part : List Char} : Blank part → Listed separator Item [] part
  | last {a : α} {part : List Char} : Item a part → Listed separator Item [a] part
  | blank {as : List α} {part rest : List Char} :
      Blank part → Listed separator Item as rest →
        Listed separator Item as (part ++ separator :: rest)
  | item {a : α} {as : List α} {part rest : List Char} :
      Item a part → Listed separator Item as rest →
        Listed separator Item (a :: as) (part ++ separator :: rest)

/-- A part that is not blank is read as the good thing that it is a written form of. -/
structure Reads (separator : Char) (read : String → Except AccessError α) (Good : α → Prop)
    (Item : α → List Char → Prop) : Prop where
  white : isWhiteSpace separator = false
  notMem : ∀ {a : α} {part : List Char}, Good a → Item a part → separator ∉ part
  not_blank : ∀ {a : α} {part : List Char}, Good a → Item a part → ¬ Blank part
  read_eq_ok_iff : ∀ {a : α} {part : List Char}, separator ∉ part → ¬ Blank part →
    (read (.ofList (trimmed part)) = .ok a ↔ Good a ∧ Item a part)

theorem Reads.listed_of_mapM_items (h : Reads separator read Good Item)
    (hread : (items separator (.ofList cs)).mapM read = .ok as) :
    (∀ a ∈ as, Good a) ∧ Listed separator Item as cs := by
  induction cs using separated_induction separator generalizing as with
  | single part hmem =>
    rw [items_of_notMem hmem] at hread
    by_cases hblank : Blank part
    · rw [itemOf_of_blank hblank] at hread
      cases hread
      exact ⟨by simp, .lastBlank hblank⟩
    · rw [itemOf_of_not_blank hblank] at hread
      obtain ⟨a, rest, ha, hrest, rfl⟩ := mapM_cons_eq_ok_iff.1 hread
      cases hrest
      obtain ⟨hgood, hitem⟩ := (h.read_eq_ok_iff hmem hblank).1 ha
      exact ⟨by simpa using hgood, .last hitem⟩
  | cons part rest hmem ih =>
    rw [items_append_cons hmem] at hread
    by_cases hblank : Blank part
    · rw [itemOf_of_blank hblank] at hread
      obtain ⟨hgood, hlisted⟩ := ih hread
      exact ⟨hgood, .blank hblank hlisted⟩
    · rw [itemOf_of_not_blank hblank] at hread
      obtain ⟨a, as', ha, has, rfl⟩ := mapM_cons_eq_ok_iff.1 hread
      obtain ⟨hgood, hlisted⟩ := ih has
      obtain ⟨hgood', hitem⟩ := (h.read_eq_ok_iff hmem hblank).1 ha
      exact ⟨List.forall_mem_cons.2 ⟨hgood', hgood⟩, .item hitem hlisted⟩

theorem Reads.mapM_items_of_listed (h : Reads separator read Good Item)
    (hlisted : Listed separator Item as cs) (hgood : ∀ a ∈ as, Good a) :
    (items separator (.ofList cs)).mapM read = .ok as := by
  induction hlisted with
  | lastBlank hblank =>
    rw [items_of_notMem (hblank.notMem h.white), itemOf_of_blank hblank]
    rfl
  | @last a part hitem =>
    have hgood := hgood a (by simp)
    have hmem := h.notMem hgood hitem
    have hblank := h.not_blank hgood hitem
    rw [items_of_notMem hmem, itemOf_of_not_blank hblank]
    exact mapM_cons_eq_ok_iff.2
      ⟨a, [], (h.read_eq_ok_iff hmem hblank).2 ⟨hgood, hitem⟩, rfl, rfl⟩
  | blank hblank _ ih =>
    rw [items_append_cons (hblank.notMem h.white), itemOf_of_blank hblank]
    exact ih hgood
  | @item a as part rest hitem _ ih =>
    obtain ⟨hgood, hrest⟩ := List.forall_mem_cons.1 hgood
    have hmem := h.notMem hgood hitem
    have hblank := h.not_blank hgood hitem
    rw [items_append_cons hmem, itemOf_of_not_blank hblank]
    exact mapM_cons_eq_ok_iff.2
      ⟨a, as, (h.read_eq_ok_iff hmem hblank).2 ⟨hgood, hitem⟩, ih hrest, rfl⟩

/-- **Reading a list.** The things that are read from the items of a text are good, and the text
lists them; and good things are read from every text that lists them. -/
theorem Reads.mapM_items_eq_ok_iff (h : Reads separator read Good Item) {text : String} :
    (items separator text).mapM read = .ok as ↔
      (∀ a ∈ as, Good a) ∧ Listed separator Item as text.toList := by
  rw [← String.ofList_toList (s := text), String.toList_ofList]
  exact ⟨h.listed_of_mapM_items, fun hlisted => h.mapM_items_of_listed hlisted.2 hlisted.1⟩

/-- A list is written by joining its things, each written in some way. -/
theorem listed_intercalate {write : α → List Char} (h : ∀ a, Item a (write a)) (as : List α) :
    Listed separator Item as ([separator].intercalate (as.map write)) := by
  induction as with
  | nil => exact .lastBlank (by simp [Blank, List.intercalate])
  | cons a as ih =>
    cases as with
    | nil => exact .last (by simpa [List.intercalate] using h a)
    | cons b bs =>
      rw [List.map_cons, List.map_cons, List.intercalate_cons_cons, List.append_assoc,
        List.singleton_append]
      exact .item (h a) ih

/-- A character that neither parts nor pads things is in their list only if it is in one. -/
theorem Listed.notMem_iff {c : Char} {write : α → List Char}
    (h : Listed separator (fun a => Padded (write a)) as cs) (hseparator : c ≠ separator)
    (hc : isWhiteSpace c = false) : c ∉ cs ↔ ∀ a ∈ as, c ∉ write a := by
  induction h with
  | lastBlank hblank => simp [hblank.notMem hc]
  | last hitem => simp [hitem.mem_iff hc]
  | blank hblank _ ih => simp [hblank.notMem hc, hseparator, ih]
  | item hitem _ ih => simp [hitem.mem_iff hc, hseparator, ih, not_or]

end Listed

/-! ## Lists of texts -/

/-- The text has no white space at its ends and none of the separators. -/
structure IsField (separators : List Char) (text : String) : Prop where
  isTrimmed : IsTrimmed text.toList
  notMem : ∀ separator ∈ separators, separator ∉ text.toList

theorem isField_cons_iff {separators : List Char} {text : String} :
    IsField (separator :: separators) text ↔
      separator ∉ text.toList ∧ IsField separators text := by
  constructor
  · rintro ⟨htrimmed, hmem⟩
    rw [List.forall_mem_cons] at hmem
    exact ⟨hmem.1, htrimmed, hmem.2⟩
  · rintro ⟨hmem, htrimmed, hrest⟩
    exact ⟨htrimmed, List.forall_mem_cons.2 ⟨hmem, hrest⟩⟩

/-- What is trimmed from a part without separators is a field, and every field is trimmed from
the parts that pad it. -/
theorem isField_padded_iff {separators : List Char} {text : String}
    (hwhite : ∀ separator ∈ separators, isWhiteSpace separator = false) :
    IsField separators text ∧ Padded text.toList part ↔
      text = .ofList (trimmed part) ∧ ∀ separator ∈ separators, separator ∉ part := by
  have hmem (hpadded : Padded text.toList part) :
      (∀ separator ∈ separators, separator ∉ part) ↔
        ∀ separator ∈ separators, separator ∉ text.toList :=
    forall₂_congr fun separator h => not_congr (hpadded.mem_iff (hwhite separator h))
  rw [← String.toList_inj, String.toList_ofList, eq_comm, trimmed_eq_iff]
  constructor
  · rintro ⟨⟨htrimmed, hfree⟩, hpadded⟩
    exact ⟨⟨htrimmed, hpadded⟩, (hmem hpadded).2 hfree⟩
  · rintro ⟨⟨htrimmed, hpadded⟩, hfree⟩
    exact ⟨⟨htrimmed, (hmem hpadded).1 hfree⟩, hpadded⟩

theorem reads_texts (h : isWhiteSpace separator = false) :
    Reads separator Except.ok (fun text => text ≠ "" ∧ IsField [separator] text)
      (fun text => Padded text.toList) := by
  have hfield {text : String} {part : List Char} :
      IsField [separator] text ∧ Padded text.toList part ↔
        text = .ofList (trimmed part) ∧ ∀ c ∈ [separator], c ∉ part :=
    isField_padded_iff (List.forall_mem_singleton.2 h)
  refine ⟨h, fun hgood hitem => ?_, fun hgood hitem hblank => ?_, fun hmem hblank => ?_⟩
  · exact (hfield.1 ⟨hgood.2, hitem⟩).2 separator (by simp)
  · refine hgood.1 ?_
    rw [(hfield.1 ⟨hgood.2, hitem⟩).1, trimmed_eq_nil_iff.2 hblank, String.ofList_nil]
  · rw [and_assoc, hfield, List.forall_mem_singleton, and_iff_left hmem, Except.ok.injEq,
      eq_comm, iff_and_self]
    rintro rfl
    rw [ne_eq, String.ofList_eq_empty_iff]
    exact fun hnil => hblank (trimmed_eq_nil_iff.1 hnil)

theorem items_eq_iff (h : isWhiteSpace separator = false) {text : String} {texts : List String} :
    items separator text = texts ↔ (∀ item ∈ texts, item ≠ "" ∧ IsField [separator] item) ∧
      Listed separator (fun item => Padded item.toList) texts text.toList := by
  rw [← (reads_texts h).mapM_items_eq_ok_iff]
  have hpure : (items separator text).mapM Except.ok =
      (.ok (items separator text) : Except AccessError (List String)) := by
    simpa using List.mapM_pure (m := Except AccessError) (l := items separator text) (f := id)
  rw [hpure, Except.ok.injEq]

end StoreAccess.Text
