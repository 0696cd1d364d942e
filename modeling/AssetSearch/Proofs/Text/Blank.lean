/-
This file shows what the removal of blanks leaves of a text. What stays begins and ends with
characters that are not blank, and only blanks are lost.
-/

import AssetSearch.Text.Blank
import Mathlib.Data.List.DropRight

namespace AssetSearch.Text

/-- This is a text of blanks only. -/
def AllBlank (characters : List Char) : Prop :=
  ∀ character ∈ characters, isBlank character = true

instance (characters : List Char) : Decidable (AllBlank characters) :=
  List.decidableBAll _ characters

/-- A text that is empty also begins with no blank. -/
def StartsSolid (characters : List Char) : Prop :=
  ∀ character, characters.head? = some character → isBlank character = false

instance (characters : List Char) : Decidable (StartsSolid characters) :=
  Option.decidableForallMem (o := characters.head?)

def EndsSolid (characters : List Char) : Prop :=
  ∀ character, characters.getLast? = some character → isBlank character = false

instance (characters : List Char) : Decidable (EndsSolid characters) :=
  Option.decidableForallMem (o := characters.getLast?)

@[simp] theorem allBlank_nil : AllBlank [] := by
  intro character inside
  cases inside

@[simp] theorem allBlank_cons {character : Char} {rest : List Char} :
    AllBlank (character :: rest) ↔ isBlank character = true ∧ AllBlank rest := by
  simp [AllBlank]

@[simp] theorem startsSolid_nil : StartsSolid [] := by
  intro character first
  cases first

@[simp] theorem startsSolid_cons {character : Char} {rest : List Char} :
    StartsSolid (character :: rest) ↔ isBlank character = false := by
  simp [StartsSolid]

@[simp] theorem endsSolid_nil : EndsSolid [] := by
  intro character last
  cases last

@[simp] theorem endsSolid_singleton {character : Char} :
    EndsSolid [character] ↔ isBlank character = false := by
  simp [EndsSolid]

@[simp] theorem endsSolid_cons_cons {first second : Char} {rest : List Char} :
    EndsSolid (first :: second :: rest) ↔ EndsSolid (second :: rest) := by
  simp [EndsSolid, List.getLast?_cons_cons]

/-- The end of a text does not depend on what stands before its last character. -/
theorem EndsSolid.ofCons {character : Char} {rest : List Char}
    (solid : EndsSolid (character :: rest)) : EndsSolid rest := by
  cases rest with
  | nil => exact endsSolid_nil
  | cons next rest => exact endsSolid_cons_cons.mp solid

theorem endsSolid_append {first second : List Char} (nonempty : second ≠ []) :
    EndsSolid (first ++ second) ↔ EndsSolid second := by
  simp [EndsSolid, List.getLast?_append_of_ne_nil _ nonempty]

theorem startsSolid_append {first second : List Char} (nonempty : first ≠ []) :
    StartsSolid (first ++ second) ↔ StartsSolid first := by
  simp [StartsSolid, List.head?_append_of_ne_nil _ nonempty]

theorem trimEnd_eq_rdropWhile (characters : List Char) :
    trimEnd characters = characters.rdropWhile isBlank := rfl

/-- The removed characters are blanks at the end. -/
theorem exists_trimEnd_append (characters : List Char) :
    ∃ blanks, AllBlank blanks ∧ characters = trimEnd characters ++ blanks := by
  refine ⟨characters.rtakeWhile isBlank, ?_, ?_⟩
  · intro character inside
    exact List.mem_rtakeWhile_imp inside
  · exact List.rdropWhile_append_rtakeWhile.symm

theorem endsSolid_trimEnd (characters : List Char) : EndsSolid (trimEnd characters) := by
  intro character last
  have nonempty : trimEnd characters ≠ [] := by
    intro empty
    simp [empty] at last
  have solid := List.rdropWhile_last_not isBlank characters nonempty
  rw [List.getLast?_eq_some_getLast nonempty, Option.some.injEq] at last
  rw [← last]
  exact Bool.eq_false_iff.mpr solid

/-- A text that ends with no blank is not changed. -/
theorem trimEnd_eq_self {characters : List Char} (solid : EndsSolid characters) :
    trimEnd characters = characters := by
  rw [trimEnd_eq_rdropWhile, List.rdropWhile_eq_self_iff]
  intro nonempty
  rw [solid _ (List.getLast?_eq_some_getLast nonempty)]
  exact Bool.false_ne_true

theorem trimEnd_eq_nil_iff {characters : List Char} :
    trimEnd characters = [] ↔ AllBlank characters := by
  rw [trimEnd_eq_rdropWhile, List.rdropWhile_eq_nil_iff]
  rfl

/-- Blanks at the end make no difference. -/
theorem trimEnd_append_blanks (characters : List Char) {blanks : List Char}
    (blank : AllBlank blanks) : trimEnd (characters ++ blanks) = trimEnd characters := by
  have reversed : ∀ character ∈ blanks.reverse, isBlank character = true := by
    intro character inside
    exact blank character (List.mem_reverse.mp inside)
  rw [trimEnd, List.reverse_append, List.dropWhile_append_of_pos reversed, trimEnd]

/-- Only the last part loses blanks, if anything is left of it. -/
theorem trimEnd_append {first second : List Char} (left : trimEnd second ≠ []) :
    trimEnd (first ++ second) = first ++ trimEnd second := by
  obtain ⟨blanks, blank, split⟩ := exists_trimEnd_append second
  have solid : EndsSolid (first ++ trimEnd second) :=
    (endsSolid_append left).mpr (endsSolid_trimEnd second)
  calc trimEnd (first ++ second)
      = trimEnd (first ++ trimEnd second ++ blanks) := by rw [List.append_assoc, ← split]
    _ = trimEnd (first ++ trimEnd second) := trimEnd_append_blanks _ blank
    _ = first ++ trimEnd second := trimEnd_eq_self solid

/-- The removed characters are blanks at the beginning. -/
theorem exists_append_trimStart (characters : List Char) :
    ∃ blanks, AllBlank blanks ∧ characters = blanks ++ trimStart characters := by
  refine ⟨characters.takeWhile isBlank, ?_, List.takeWhile_append_dropWhile.symm⟩
  intro character inside
  exact List.mem_takeWhile_imp inside

theorem startsSolid_trimStart (characters : List Char) : StartsSolid (trimStart characters) := by
  intro character first
  have solid := List.head?_dropWhile_not isBlank characters
  rw [trimStart] at first
  rw [first] at solid
  exact solid

theorem trimStart_eq_self {characters : List Char} (solid : StartsSolid characters) :
    trimStart characters = characters := by
  cases characters with
  | nil => rfl
  | cons character rest =>
      rw [startsSolid_cons] at solid
      rw [trimStart, List.dropWhile_cons_of_neg (by rw [solid]; exact Bool.false_ne_true)]

/-- A text with no blank at either end is not changed. -/
theorem trim_eq_self {characters : List Char} (starts : StartsSolid characters)
    (ends : EndsSolid characters) : trim characters = characters := by
  rw [trim, trimStart_eq_self starts, trimEnd_eq_self ends]

/-- What is left of a text begins with no blank. -/
theorem startsSolid_trim (characters : List Char) : StartsSolid (trim characters) := by
  intro character first
  obtain ⟨blanks, -, split⟩ := exists_trimEnd_append (trimStart characters)
  apply startsSolid_trimStart characters
  rw [trim] at first
  rw [split, List.head?_append, first, Option.some_or]

theorem endsSolid_trim (characters : List Char) : EndsSolid (trim characters) :=
  endsSolid_trimEnd _

/-- Blanks in front make no difference. -/
theorem trim_blanks_append {blanks : List Char} (blank : AllBlank blanks)
    (characters : List Char) : trim (blanks ++ characters) = trim characters := by
  rw [trim, trimStart, List.dropWhile_append_of_pos blank, trim, trimStart]

theorem trim_append_blanks (characters : List Char) {blanks : List Char}
    (blank : AllBlank blanks) : trim (characters ++ blanks) = trim characters := by
  rw [trim, trimStart, List.dropWhile_append]
  split
  · next allBlank =>
      have nothing : blanks.dropWhile isBlank = [] := List.dropWhile_eq_nil_iff.mpr blank
      rw [nothing, trim, trimStart, List.isEmpty_iff.mp allBlank]
  · exact trimEnd_append_blanks _ blank

/-- Behind a character that is not blank only the end is trimmed. -/
theorem trim_cons {character : Char} (solid : isBlank character = false) (rest : List Char) :
    trim (character :: rest) = character :: trimEnd rest := by
  rw [trim, trimStart_eq_self (startsSolid_cons.mpr solid)]
  by_cases allBlank : AllBlank rest
  · rw [trimEnd_eq_nil_iff.mpr allBlank]
    exact (trimEnd_append_blanks [character] allBlank).trans
      (trimEnd_eq_self (endsSolid_singleton.mpr solid))
  · have split : trimEnd ([character] ++ rest) = [character] ++ trimEnd rest :=
      trimEnd_append (mt trimEnd_eq_nil_iff.mp allBlank)
    exact split

/-- Blanks at the end are lost in any case. -/
theorem trim_trimEnd (characters : List Char) : trim (trimEnd characters) = trim characters := by
  obtain ⟨blanks, blank, split⟩ := exists_trimEnd_append characters
  conv_rhs => rw [split, trim_append_blanks _ blank]

end AssetSearch.Text
