import Mathlib.Data.List.Basic

/-! Texts of parts with a separator in between. If a part is free of the separator, the parts can be
told from the text, and the words between separators can be joined and split again.
-/

namespace SeparatedText

variable {Item : Type*} {separator : Item}

/-- The first occurrence of a separator is in one place, by induction over what stands before it. -/
theorem append_cons_inj {before otherBefore after otherAfter : List Item}
    (absent : separator ∉ before) (otherAbsent : separator ∉ otherBefore)
    (same : before ++ separator :: after = otherBefore ++ separator :: otherAfter)
    : before = otherBefore ∧ after = otherAfter := by
  induction before generalizing otherBefore with
  | nil =>
      cases otherBefore with
      | nil => exact ⟨rfl, (List.cons.inj same).2⟩
      | cons head rest =>
          obtain ⟨rfl, _⟩ := List.cons.inj same
          exact absurd List.mem_cons_self otherAbsent
  | cons head rest ih =>
      cases otherBefore with
      | nil =>
          obtain ⟨rfl, _⟩ := List.cons.inj same
          exact absurd List.mem_cons_self absent
      | cons otherHead otherRest =>
          obtain ⟨rfl, sameRest⟩ := List.cons.inj same
          obtain ⟨rfl, sameAfter⟩ :=
            ih (mt (List.mem_cons_of_mem _) absent) (mt (List.mem_cons_of_mem _) otherAbsent)
              sameRest
          exact ⟨rfl, sameAfter⟩

/-- Behind its last separator, a text has no other one: the parts are one way only. -/
theorem text_inj {separator : Char} {before otherBefore after otherAfter : String}
    (absent : separator ∉ after.toList) (otherAbsent : separator ∉ otherAfter.toList)
    (same
      : before ++ String.singleton separator ++ after
        = otherBefore ++ String.singleton separator ++ otherAfter)
    : before = otherBefore ∧ after = otherAfter := by
  have reversed
      : after.toList.reverse ++ separator :: before.toList.reverse
        = otherAfter.toList.reverse ++ separator :: otherBefore.toList.reverse := by
    have texts := congrArg (fun text : String => text.toList.reverse) same
    simpa using texts
  obtain ⟨sameAfter, sameBefore⟩ := append_cons_inj
    (mt List.mem_reverse.mp absent) (mt List.mem_reverse.mp otherAbsent) reversed
  exact ⟨String.toList_inj.mp (List.reverse_injective sameBefore),
    String.toList_inj.mp (List.reverse_injective sameAfter)⟩

------------------------------------------------------------
-- Words
------------------------------------------------------------

/-- Joining adds a separator between any two parts, by induction over the parts. -/
theorem length_intercalate (parts : List (List Item))
    : ([separator].intercalate parts).length = parts.flatten.length + (parts.length - 1) := by
  induction parts with
  | nil => rfl
  | cons first rest ih =>
      cases rest with
      | nil => simp
      | cons second later =>
          rw [List.intercalate_cons_cons, List.length_append, List.length_append, ih]
          simp
          omega

/-- What is joined comes from a part or is a separator, by induction over the parts. -/
theorem mem_intercalate {parts : List (List Item)} {item : Item}
    (member : item ∈ [separator].intercalate parts)
    : item = separator ∨ ∃ part ∈ parts, item ∈ part := by
  induction parts with
  | nil => exact absurd member List.not_mem_nil
  | cons first rest ih =>
      cases rest with
      | nil =>
          rw [List.intercalate_singleton] at member
          exact .inr ⟨first, List.mem_singleton_self first, member⟩
      | cons second later =>
          rw [List.intercalate_cons_cons, List.append_assoc, List.mem_append] at member
          rcases member with inFirst | behind
          · exact .inr ⟨first, List.mem_cons_self, inFirst⟩
          · rcases List.mem_cons.mp behind with isSeparator | inRest
            · exact .inl isSeparator
            · rcases ih inRest with isSeparator | ⟨part, isPart, inPart⟩
              · exact .inl isSeparator
              · exact .inr ⟨part, List.mem_cons_of_mem _ isPart, inPart⟩

section Words

variable [DecidableEq Item]

/-- The nonempty parts between separators. -/
def words (separator : Item) (items : List Item) : List (List Item) :=
  (items.splitOn separator).filter (!·.isEmpty)

/-- The number of maximal runs of items that meet a condition, counted at their last items. -/
def runs (condition : Item → Bool) : List Item → Nat
  | [] => 0
  | item :: rest =>
      if condition item && !rest.head?.any condition then runs condition rest + 1
      else runs condition rest

theorem runs_map {Source Target : Type} {condition : Target → Bool} {change : Source → Target}
    (items : List Source)
    : runs condition (items.map change) = runs (fun item => condition (change item)) items := by
  induction items with
  | nil => rfl
  | cons item rest ih =>
      rw [List.map_cons, runs, runs, ih, List.head?_map, Option.any_map]

theorem words_cons_separator (rest : List Item)
    : words separator (separator :: rest) = words separator rest := by
  rw [words, List.splitOn_cons_eq_if_modifyHead, if_pos (beq_self_eq_true separator)]
  rfl

/-- An item other than the separator is put in front of the first part. -/
theorem splitOn_cons_of_ne {item : Item} (different : item ≠ separator) (rest : List Item)
    : ∃ first parts,
        rest.splitOn separator = first :: parts
        ∧ (item :: rest).splitOn separator = (item :: first) :: parts
        ∧ (first.isEmpty = !rest.head?.any (· ≠ separator)) := by
  have joined := List.splitOn_cons_eq_if_modifyHead (a := separator) item rest
  rw [if_neg (mt beq_iff_eq.mp different)] at joined
  cases split : rest.splitOn separator with
  | nil => exact absurd split (List.splitOn_ne_nil separator rest)
  | cons first parts =>
      rw [split] at joined
      refine ⟨first, parts, rfl, joined, ?_⟩
      cases rest with
      | nil =>
          rw [List.splitOn_nil] at split
          cases split
          rfl
      | cons next later =>
          rw [List.splitOn_cons_eq_if_modifyHead] at split
          by_cases isSeparator : next = separator
          · rw [if_pos (beq_iff_eq.mpr isSeparator)] at split
            cases split
            simp [isSeparator]
          · rw [if_neg (mt beq_iff_eq.mp isSeparator)] at split
            cases behind : later.splitOn separator with
            | nil => exact absurd behind (List.splitOn_ne_nil separator later)
            | cons head tail =>
                rw [behind] at split
                cases split
                simp [isSeparator]

/-- The words hold all items but the separators, by induction over the items. -/
theorem flatten_words (items : List Item)
    : (words separator items).flatten = items.filter (· ≠ separator) := by
  induction items with
  | nil => simp [words]
  | cons item rest ih =>
      by_cases isSeparator : item = separator
      · rw [isSeparator, words_cons_separator, ih, List.filter_cons_of_neg (by simp)]
      · obtain ⟨first, parts, split, joined, _⟩ := splitOn_cons_of_ne isSeparator rest
        rw [List.filter_cons_of_pos (by simpa using isSeparator), ← ih, words, words, split, joined]
        cases first <;> simp

/-- There are as many words as runs of items between separators. -/
theorem length_words (items : List Item)
    : (words separator items).length = runs (· ≠ separator) items := by
  induction items with
  | nil => simp [words, runs]
  | cons item rest ih =>
      rw [runs]
      by_cases isSeparator : item = separator
      · rw [isSeparator, words_cons_separator, ih, if_neg (by simp)]
      · obtain ⟨first, parts, split, joined, isEmpty⟩ := splitOn_cons_of_ne isSeparator rest
        rw [← ih, words, words, split, joined, ← isEmpty]
        cases first <;> simp [isSeparator]

theorem not_mem_of_mem_words {items word : List Item} (member : word ∈ words separator items)
    : separator ∉ word := by
  intro inWord
  have inFlat : separator ∈ (words separator items).flatten :=
    List.mem_flatten.mpr ⟨word, member, inWord⟩
  rw [flatten_words] at inFlat
  simpa using List.of_mem_filter inFlat

theorem ne_nil_of_mem_words {items word : List Item} (member : word ∈ words separator items)
    : word ≠ [] := by
  simpa using List.of_mem_filter member

/-- Words that were joined are found again. -/
theorem words_intercalate {parts : List (List Item)} (nonempty : ∀ part ∈ parts, part ≠ [])
    (absent : ∀ part ∈ parts, separator ∉ part)
    : words separator ([separator].intercalate parts) = parts := by
  cases parts with
  | nil => simp [words]
  | cons first rest =>
      rw [words, List.splitOn_intercalate separator absent (List.cons_ne_nil first rest),
        List.filter_eq_self]
      intro part member
      simpa using nonempty part member

end Words

end SeparatedText
