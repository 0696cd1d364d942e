/-
This file shows which names have a keyword of letters and digits only. The words are cut before
their case changes, so that a mark that the change brings about stays in the keyword.
-/

import AssetSearch.Proofs.Catalog.NameWords
import AssetSearch.Proofs.Text.CaseLetters

namespace AssetSearch.Catalog

open AssetSearch.Text

/-- Every letter and digit of a name lies in one of its words. -/
theorem HasWords.mem_iff {name : List Char} {found : List (List Char)} (given : HasWords name found)
    {character : Char} (alphanumeric : isAlphanumeric character = true) :
    character ∈ name ↔ ∃ word ∈ found, character ∈ word := by
  induction given with
  | separators none =>
      refine iff_of_false (fun inside => ?_) (by simp)
      exact Bool.noConfusion (alphanumeric.symm.trans (none character inside))
  | @word before word rest later separators _ _ _ _ inductionHypothesis =>
      have notBefore : character ∉ before := fun inside =>
        Bool.noConfusion (alphanumeric.symm.trans (separators character inside))
      simp only [List.mem_append, notBefore, false_or, inductionHypothesis,
        List.exists_mem_cons_iff]

/-- The first letter of the word gets a mark when it is raised. -/
def BeginsMarked (word : List Char) : Prop :=
  ∃ letter ∈ word.head?, letter ∈ markedWhenRaised

instance (word : List Char) : Decidable (BeginsMarked word) :=
  decidable_of_iff (word.head?.any markedWhenRaised.contains = true)
    (by simp [BeginsMarked, Option.any_eq_true])

section

variable {word : List Char} (filled : word ≠ [])
  (letters : ∀ character ∈ word, isAlphanumeric character = true)

include filled letters

theorem capitalized_isAlphanumeric_or_mem :
    ∀ image ∈ capitalized word, isAlphanumeric image = true ∨ image ∈ caseMarks := by
  obtain ⟨first, others, lowered, letter, -⟩ := exists_head_lowerCase filled letters
  have lowerImages := lowerAfter_isAlphanumeric_or_mem letters []
  rw [← lowerCase, lowered] at lowerImages
  rw [capitalized, lowered, List.forall_mem_append]
  exact ⟨upperOf_marksOnly.isAlphanumeric_or_mem letter, (List.forall_mem_cons.mp lowerImages).2⟩

theorem exists_mark_capitalized_iff :
    (∃ mark ∈ capitalized word, mark ∈ caseMarks) ↔ 'İ' ∈ word ∨ BeginsMarked word := by
  obtain ⟨first, others, lowered, letter, marked⟩ := exists_head_lowerCase filled letters
  have raised := upperOf_marksOnly.exists_mark_iff letter
  have small := exists_mark_lowerAfter_iff letters []
  rw [← lowerCase, lowered, List.exists_mem_cons_iff, or_iff_right (not_mem_caseMarks letter)]
    at small
  rw [capitalized, lowered, BeginsMarked, ← marked, ← raised, ← small, or_comm]
  simp only [upperOf, List.mem_append, or_and_right, exists_or]

end

section

variable {found : List (List Char)}
  (given : ∀ word ∈ found, word ≠ [] ∧ ∀ character ∈ word, isAlphanumeric character = true)

include given

theorem camelCase_isAlphanumeric_or_mem :
    ∀ image ∈ camelCase found, isAlphanumeric image = true ∨ image ∈ caseMarks := by
  intro image inside
  rcases mem_camelCase_iff.mp inside with ⟨word, first, lowered⟩ | ⟨word, later, raised⟩
  · obtain ⟨-, letters⟩ := given word (List.mem_of_head? first)
    exact lowerAfter_isAlphanumeric_or_mem letters [] image lowered
  · obtain ⟨filled, letters⟩ := given word (List.mem_of_mem_tail later)
    exact capitalized_isAlphanumeric_or_mem filled letters image raised

theorem exists_mark_camelCase_iff :
    (∃ mark ∈ camelCase found, mark ∈ caseMarks) ↔
      (∃ word ∈ found, 'İ' ∈ word) ∨ ∃ word ∈ found.tail, BeginsMarked word := by
  constructor
  · rintro ⟨mark, inside, isMark⟩
    rcases mem_camelCase_iff.mp inside with ⟨word, first, lowered⟩ | ⟨word, later, raised⟩
    · have member := List.mem_of_head? first
      have dotted := (exists_mark_lowerAfter_iff (given word member).2 []).mp
        ⟨mark, lowered, isMark⟩
      exact Or.inl ⟨word, member, dotted⟩
    · have member := List.mem_of_mem_tail later
      obtain ⟨filled, letters⟩ := given word member
      rcases (exists_mark_capitalized_iff filled letters).mp ⟨mark, raised, isMark⟩ with
        dotted | begins
      · exact Or.inl ⟨word, member, dotted⟩
      · exact Or.inr ⟨word, later, begins⟩
  · -- The dotted capital gets its mark in the first word as well as in a later one.
    have capital : ∀ word ∈ found.tail, 'İ' ∈ word ∨ BeginsMarked word →
        ∃ mark ∈ camelCase found, mark ∈ caseMarks := by
      intro word later marked
      obtain ⟨filled, letters⟩ := given word (List.mem_of_mem_tail later)
      obtain ⟨mark, raised, isMark⟩ := (exists_mark_capitalized_iff filled letters).mpr marked
      exact ⟨mark, mem_camelCase_iff.mpr (Or.inr ⟨word, later, raised⟩), isMark⟩
    rintro (⟨word, member, dotted⟩ | ⟨word, later, begins⟩)
    · cases found with
      | nil => cases member
      | cons first others =>
          rcases List.mem_cons.mp member with rfl | later
          · obtain ⟨mark, lowered, isMark⟩ :=
              (exists_mark_lowerAfter_iff (given word member).2 []).mpr dotted
            exact ⟨mark, mem_camelCase_iff.mpr (Or.inl ⟨word, rfl, lowered⟩), isMark⟩
          · exact capital word later (Or.inl dotted)
    · exact capital word later (Or.inr begins)

end

/-- A change of case writes a mark into the keyword: the dotted capital gets one when it is
lowered, and some letters that begin a later word when they are raised. -/
def GetsMark (name : String) : Prop :=
  'İ' ∈ name.toList ∨ ∃ word ∈ (words name.toList).tail, BeginsMarked word

instance (name : String) : Decidable (GetsMark name) :=
  inferInstanceAs (Decidable (_ ∨ ∃ word ∈ _, BeginsMarked word))

/-- The keyword of a name has letters and digits only, unless a change of case gives one of its
letters a mark. Nothing else than these marks gets into a keyword. -/
theorem slug_isAlphanumeric_iff (name : String) :
    ((∀ character ∈ (slug name).toList, isAlphanumeric character = true) ↔ ¬ GetsMark name) ∧
      ∀ character ∈ (slug name).toList,
        isAlphanumeric character = true ∨ character ∈ caseMarks := by
  have given : ∀ word ∈ words name.toList,
      word ≠ [] ∧ ∀ character ∈ word, isAlphanumeric character = true :=
    fun _ inside => words_alphanumeric inside
  have either : ∀ character ∈ (slug name).toList,
      isAlphanumeric character = true ∨ character ∈ caseMarks := by
    rw [slug_toList]
    exact camelCase_isAlphanumeric_or_mem given
  have marked : (∃ mark ∈ (slug name).toList, mark ∈ caseMarks) ↔ GetsMark name := by
    rw [slug_toList, exists_mark_camelCase_iff given, GetsMark,
      (HasWords.of_words name.toList).mem_iff (by decide +kernel)]
  refine ⟨?_, either⟩
  rw [← marked]
  constructor
  · rintro letters ⟨mark, inside, isMark⟩
    exact not_mem_caseMarks (letters mark inside) isMark
  · intro none character inside
    exact (either character inside).resolve_right fun isMark => none ⟨character, inside, isMark⟩

/-- Only the first letters of later words are raised. -/
example : GetsMark "at ǰ" ∧ ¬ GetsMark "ǰ at" := by decide +kernel

/-- The lower case of the dotted capital leaves its dot behind as a mark of its own, at which the
name of another field would be cut. -/
theorem dottedCapital_leavesMark :
    slug "İade" = "i\u0307ade" ∧
      (¬ ∀ character ∈ (slug "İade").toList, isAlphanumeric character = true) ∧
      slug (slug "İade") = "iAde" := by
  have spelled : slug "İade" = "i\u0307ade" := by decide +kernel
  have marked : isAlphanumeric '\u0307' = false := by decide +kernel
  refine ⟨spelled, fun letters => ?_, by decide +kernel⟩
  rw [spelled] at letters
  exact Bool.noConfusion (marked.symm.trans (letters '\u0307' (by decide)))

end AssetSearch.Catalog
