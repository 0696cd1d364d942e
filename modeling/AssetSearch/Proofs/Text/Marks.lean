/-
This file shows where a text is cut by a reader that stops at the first character of some kind, and
which characters a text has whose parts are joined by marks.
-/

import Mathlib.Data.List.TakeWhile

namespace AssetSearch.Text

variable {goesOn : Char → Bool} {mark : Char} {before after rest : List Char}

/-- The reader goes on to the end of the first part and not beyond it. -/
structure Stops (goesOn : Char → Bool) (before rest : List Char) : Prop where
  passes : ∀ character ∈ before, goesOn character = true
  ends : ∀ character ∈ rest.head?, goesOn character = false

theorem Stops.takeWhile_eq (stops : Stops goesOn before rest) :
    (before ++ rest).takeWhile goesOn = before := by
  rw [List.takeWhile_append_of_pos stops.passes]
  cases rest with
  | nil => exact List.append_nil _
  | cons character rest =>
      rw [List.takeWhile_cons_of_neg (by simp [stops.ends character rfl]), List.append_nil]

theorem Stops.dropWhile_eq (stops : Stops goesOn before rest) :
    (before ++ rest).dropWhile goesOn = rest := by
  rw [List.dropWhile_append_of_pos stops.passes]
  cases rest with
  | nil => rfl
  | cons character rest =>
      rw [List.dropWhile_cons_of_neg (by simp [stops.ends character rfl])]

/-- A reader that looks for a mark stops at the first one. -/
theorem stops_atMark (absent : mark ∉ before) : Stops (· != mark) before (mark :: after) where
  passes := by
    intro character inside
    rw [bne_iff_ne]
    rintro rfl
    exact absent inside
  ends := by simp

/-- Joined parts have no characters but their own and those between them. -/
theorem mem_intercalate {separator : List Char} {parts : List (List Char)} {character : Char}
    (inside : character ∈ separator.intercalate parts) :
    character ∈ separator ∨ ∃ part ∈ parts, character ∈ part := by
  induction parts with
  | nil => exact absurd inside List.not_mem_nil
  | cons first later inductionHypothesis =>
      cases later with
      | nil =>
          rw [List.intercalate_singleton] at inside
          exact .inr ⟨first, List.mem_cons_self, inside⟩
      | cons second later =>
          rw [List.intercalate_cons_cons, List.mem_append, List.mem_append] at inside
          obtain (inFirst | between) | inLater := inside
          · exact .inr ⟨first, List.mem_cons_self, inFirst⟩
          · exact .inl between
          · refine (inductionHypothesis inLater).imp_right ?_
            rintro ⟨part, among, inPart⟩
            exact ⟨part, List.mem_cons_of_mem _ among, inPart⟩

end AssetSearch.Text
