/-
This file shows that the words of a name are its longest runs of letters and digits, and that the
keyword of the name has them in lower camel case, whatever stands between them.
-/

import AssetSearch.Catalog.Slug
import AssetSearch.Proofs.Text.CaseImages
import Mathlib.Data.List.Forall2
import Mathlib.Data.List.TakeWhile
import Mathlib.Logic.ExistsUnique

namespace AssetSearch.Catalog

open AssetSearch.Text

theorem mem_consWord_iff {word other : List Char} {later : List (List Char)} :
    other ∈ consWord word later ↔ (other = word ∧ word ≠ []) ∨ other ∈ later := by
  cases word <;> simp [consWord]

theorem wordsFrom_alphanumeric_cons {character : Char}
    (alphanumeric : isAlphanumeric character = true) (rest : List Char) :
    wordsFrom (character :: rest) = (character :: (wordsFrom rest).1, (wordsFrom rest).2) := by
  simp [wordsFrom, alphanumeric]

/-- Any other character ends a word. -/
theorem wordsFrom_separator_cons {character : Char}
    (separator : isAlphanumeric character = false) (rest : List Char) :
    wordsFrom (character :: rest) = ([], words rest) := by
  simp [wordsFrom, separator, words]

theorem wordsFrom_alphanumeric (name : List Char) :
    (∀ character ∈ (wordsFrom name).1, isAlphanumeric character = true) ∧
      ∀ word ∈ (wordsFrom name).2,
        word ≠ [] ∧ ∀ character ∈ word, isAlphanumeric character = true := by
  induction name with
  | nil => simp [wordsFrom]
  | cons character rest inductionHypothesis =>
      obtain ⟨continued, later⟩ := inductionHypothesis
      cases alphanumeric : isAlphanumeric character with
      | true =>
          rw [wordsFrom_alphanumeric_cons alphanumeric]
          refine ⟨?_, later⟩
          intro other inside
          rcases List.mem_cons.mp inside with rfl | further
          · exact alphanumeric
          · exact continued other further
      | false =>
          rw [wordsFrom_separator_cons alphanumeric]
          refine ⟨by simp, ?_⟩
          intro word inside
          rcases mem_consWord_iff.mp inside with ⟨rfl, filled⟩ | further
          · exact ⟨filled, continued⟩
          · exact later word further

/-- The words of a name are not empty and have letters and digits only. -/
theorem words_alphanumeric {name word : List Char} (inside : word ∈ words name) :
    word ≠ [] ∧ ∀ character ∈ word, isAlphanumeric character = true := by
  obtain ⟨first, later⟩ := wordsFrom_alphanumeric name
  rcases mem_consWord_iff.mp inside with ⟨rfl, filled⟩ | further
  · exact ⟨filled, first⟩
  · exact later word further

theorem consWord_eq_nil_iff {word : List Char} {later : List (List Char)} :
    consWord word later = [] ↔ word = [] ∧ later = [] := by
  cases word <;> simp [consWord]

/-- A name without letters and digits has no words. -/
theorem words_eq_nil_iff {name : List Char} :
    words name = [] ↔ ∀ character ∈ name, isAlphanumeric character = false := by
  -- The word that is still open counts as well.
  have general : (wordsFrom name).1 = [] ∧ (wordsFrom name).2 = [] ↔
      ∀ character ∈ name, isAlphanumeric character = false := by
    induction name with
    | nil => simp [wordsFrom]
    | cons character rest inductionHypothesis =>
        rw [List.forall_mem_cons, ← inductionHypothesis]
        cases alphanumeric : isAlphanumeric character with
        | true => simp [wordsFrom_alphanumeric_cons alphanumeric]
        | false => simp [wordsFrom_separator_cons alphanumeric, words, consWord_eq_nil_iff]
  rw [words, consWord_eq_nil_iff, general]

/-- The name has no letter and no digit. -/
def HasNoWord (name : String) : Prop :=
  ∀ character ∈ name.toList, isAlphanumeric character = false

/-- These are the longest runs of letters and digits of a name, in order. Each of them ends where
something else follows or the name ends. -/
inductive HasWords : List Char → List (List Char) → Prop
  | separators {name : List Char} (none : ∀ character ∈ name, isAlphanumeric character = false) :
      HasWords name []
  | word {before word rest : List Char} {later : List (List Char)}
      (separators : ∀ character ∈ before, isAlphanumeric character = false) (filled : word ≠ [])
      (letters : ∀ character ∈ word, isAlphanumeric character = true)
      (ends : ∀ character ∈ rest.head?, isAlphanumeric character = false)
      (further : HasWords rest later) : HasWords (before ++ word ++ rest) (word :: later)

section

variable {before word rest : List Char}

theorem words_separators_append
    (separators : ∀ character ∈ before, isAlphanumeric character = false) (rest : List Char) :
    words (before ++ rest) = words rest := by
  induction before with
  | nil => rfl
  | cons character before inductionHypothesis =>
      obtain ⟨separator, others⟩ := List.forall_mem_cons.mp separators
      rw [List.cons_append, words, wordsFrom_separator_cons separator, inductionHypothesis others]
      rfl

theorem wordsFrom_letters_append
    (letters : ∀ character ∈ word, isAlphanumeric character = true) (rest : List Char) :
    wordsFrom (word ++ rest) = (word ++ (wordsFrom rest).1, (wordsFrom rest).2) := by
  induction word with
  | nil => rfl
  | cons character word inductionHypothesis =>
      obtain ⟨letter, others⟩ := List.forall_mem_cons.mp letters
      rw [List.cons_append, wordsFrom_alphanumeric_cons letter, inductionHypothesis others]
      rfl

/-- No word is open in front of a separator or at the end. -/
theorem wordsFrom_closed (ends : ∀ character ∈ rest.head?, isAlphanumeric character = false) :
    wordsFrom rest = ([], words rest) := by
  cases rest with
  | nil => rfl
  | cons character rest =>
      have separator := ends character rfl
      rw [words, wordsFrom_separator_cons separator]
      rfl

theorem words_word_append (filled : word ≠ [])
    (letters : ∀ character ∈ word, isAlphanumeric character = true)
    (ends : ∀ character ∈ rest.head?, isAlphanumeric character = false) :
    words (word ++ rest) = word :: words rest := by
  rw [words, wordsFrom_letters_append letters, wordsFrom_closed ends, List.append_nil]
  exact if_neg (by simpa using filled)

end

/-- The first word of a name is cut off together with the separators before it. -/
theorem exists_firstWord {name : List Char}
    (given : ¬ ∀ character ∈ name, isAlphanumeric character = false) :
    ∃ before word rest, name = before ++ word ++ rest ∧
      (∀ character ∈ before, isAlphanumeric character = false) ∧ word ≠ [] ∧
      (∀ character ∈ word, isAlphanumeric character = true) ∧
      ∀ character ∈ rest.head?, isAlphanumeric character = false := by
  have separators : ∀ character ∈ name.takeWhile (!isAlphanumeric ·),
      isAlphanumeric character = false := by
    intro character inside
    simpa using List.mem_takeWhile_imp inside
  have whole := List.takeWhile_append_dropWhile (p := (!isAlphanumeric ·)) (l := name)
  cases left : name.dropWhile (!isAlphanumeric ·) with
  | nil =>
      rw [left, List.append_nil] at whole
      rw [whole] at separators
      exact absurd separators given
  | cons first others =>
      have letter : isAlphanumeric first = true := by
        have stops := List.head?_dropWhile_not (!isAlphanumeric ·) name
        rw [left] at stops
        simpa using stops
      have later := List.takeWhile_append_dropWhile (p := isAlphanumeric) (l := first :: others)
      refine ⟨_, (first :: others).takeWhile isAlphanumeric,
        (first :: others).dropWhile isAlphanumeric, ?_, separators, ?_, ?_, ?_⟩
      · rw [List.append_assoc, later, ← left, whole]
      · rw [List.takeWhile_cons_of_pos letter]
        exact List.cons_ne_nil _ _
      · exact fun character inside => List.mem_takeWhile_imp inside
      · intro character inside
        have stops := List.head?_dropWhile_not isAlphanumeric (first :: others)
        rw [Option.mem_def.mp inside] at stops
        simpa using stops

namespace HasWords

theorem words_eq {name : List Char} {found : List (List Char)} (given : HasWords name found) :
    words name = found := by
  induction given with
  | separators none => exact words_eq_nil_iff.mpr none
  | word separators filled letters ends _ inductionHypothesis =>
      rw [List.append_assoc, words_separators_append separators,
        words_word_append filled letters ends, inductionHypothesis]

/-- The words are cut off the front of the name one after the other. -/
theorem of_words (name : List Char) : HasWords name (words name) := by
  induction length : name.length using Nat.strongRecOn generalizing name with
  | ind count inductionHypothesis =>
      rcases Decidable.em (∀ character ∈ name, isAlphanumeric character = false) with none | some
      · rw [words_eq_nil_iff.mpr none]
        exact .separators none
      · obtain ⟨before, word, rest, rfl, separators, filled, letters, ends⟩ := exists_firstWord some
        have shorter : rest.length < count := by
          have positive := List.length_pos_iff.mpr filled
          rw [← length, List.length_append, List.length_append]
          omega
        rw [List.append_assoc, words_separators_append separators,
          words_word_append filled letters ends, ← List.append_assoc]
        exact .word separators filled letters ends (inductionHypothesis _ shorter rest rfl)

end HasWords

/-- Words on both sides of separators stay apart. -/
theorem HasWords.words_append {before separators : List Char} {found : List (List Char)}
    (given : HasWords before found) (filled : separators ≠ [])
    (none : ∀ character ∈ separators, isAlphanumeric character = false) (after : List Char) :
    words (before ++ separators ++ after) = found ++ words after := by
  induction given with
  | separators noneBefore =>
      rw [List.append_assoc, words_separators_append noneBefore, words_separators_append none,
        List.nil_append]
  | @word before word rest later separatorsBefore wordFilled letters ends _ inductionHypothesis =>
      have stillEnds : ∀ character ∈ (rest ++ separators ++ after).head?,
          isAlphanumeric character = false := by
        intro character inside
        cases rest with
        | nil =>
            rw [List.nil_append, List.head?_append_of_ne_nil _ filled] at inside
            exact none character (List.mem_of_head? inside)
        | cons first rest => exact ends character inside
      have regrouped : before ++ word ++ rest ++ separators ++ after =
          before ++ (word ++ (rest ++ separators ++ after)) := by
        simp only [List.append_assoc]
      rw [regrouped, words_separators_append separatorsBefore,
        words_word_append wordFilled letters stillEnds, inductionHypothesis, List.cons_append]

/-- Only the first word begins with its lower case. -/
def camelCase : List (List Char) → List Char
  | [] => []
  | first :: later => lowerCase first ++ later.flatMap capitalized

/-- Every character comes from the small first word or from the capital of a later one. -/
theorem mem_camelCase_iff {found : List (List Char)} {image : Char} :
    image ∈ camelCase found ↔
      (∃ word ∈ found.head?, image ∈ lowerCase word) ∨
        ∃ word ∈ found.tail, image ∈ capitalized word := by
  cases found with
  | nil => simp [camelCase]
  | cons first later => simp [camelCase]

theorem foldl_addWord {slug : List Char} (filled : slug ≠ []) (later : List (List Char)) :
    later.foldl addWord slug = slug ++ later.flatMap capitalized := by
  induction later generalizing slug with
  | nil => simp
  | cons word later inductionHypothesis =>
      have longer : addWord slug word = slug ++ capitalized word := if_neg (by simpa using filled)
      rw [List.foldl_cons, longer, inductionHypothesis (by simp [filled]), List.flatMap_cons,
        List.append_assoc]

/-- No word leaves the keyword empty, so that the later words are the ones with a capital. -/
theorem slug_toList (name : String) : (slug name).toList = camelCase (words name.toList) := by
  rw [slug, String.toList_ofList]
  cases given : words name.toList with
  | nil => rfl
  | cons first later =>
      have filled := (words_alphanumeric (given ▸ List.mem_cons_self)).1
      rw [List.foldl_cons]
      exact foldl_addWord (fun empty => filled (lowerCase_eq_nil_iff.mp empty)) later

/-- The word is lowered, and the first character of its lower case is raised. -/
def IsCapitalized (word capital : List Char) : Prop :=
  ∃ first rest, lowerCase word = first :: rest ∧ capital = upperOf first ++ rest

theorem isCapitalized_capitalized {word : List Char} (filled : word ≠ []) :
    IsCapitalized word (capitalized word) := by
  obtain ⟨first, rest, lowered⟩ := List.exists_cons_of_ne_nil fun empty =>
    filled (lowerCase_eq_nil_iff.mp empty)
  exact ⟨first, rest, lowered, by rw [capitalized, lowered]⟩

/-- The words follow each other in lower camel case. -/
inductive SpellsWords : List (List Char) → List Char → Prop
  | nothing : SpellsWords [] []
  | words {first : List Char} {later capitals : List (List Char)}
      (capitalized : List.Forall₂ IsCapitalized later capitals) :
      SpellsWords (first :: later) (lowerCase first ++ capitals.flatten)

theorem forall₂_capitalized {found : List (List Char)} (filled : ∀ word ∈ found, word ≠ []) :
    List.Forall₂ IsCapitalized found (found.map capitalized) := by
  rw [List.forall₂_map_right_iff, List.forall₂_same]
  exact fun word inside => isCapitalized_capitalized (filled word inside)

theorem spellsWords_camelCase {found : List (List Char)} (filled : ∀ word ∈ found, word ≠ []) :
    SpellsWords found (camelCase found) := by
  cases found with
  | nil => exact .nothing
  | cons first later =>
      rw [camelCase, List.flatMap_def]
      exact .words (forall₂_capitalized fun word inside =>
        filled word (List.mem_cons_of_mem first inside))

/-- More words only add their capitals, if there is a word before them. -/
theorem camelCase_append {found : List (List Char)} (some : found ≠ [])
    (later : List (List Char)) :
    camelCase (found ++ later) = camelCase found ++ (later.map capitalized).flatten := by
  cases found with
  | nil => exact absurd rfl some
  | cons first others =>
      rw [List.cons_append, camelCase, camelCase, List.flatMap_append, List.append_assoc,
        ← List.flatMap_def]

/-- The keyword of a name is made of its words alone, in lower camel case. Words that are added
behind a separator add their capitals. -/
theorem slug_spellsWords :
    (∀ name : String, ∃! found, HasWords name.toList found) ∧
      (∀ (name other : String) (found : List (List Char)),
        HasWords name.toList found → HasWords other.toList found → slug name = slug other) ∧
      (∀ (name : String) (found : List (List Char)),
        HasWords name.toList found → SpellsWords found (slug name).toList) ∧
      ∀ (before separators after : String) (found : List (List Char)),
        ¬ HasNoWord before → separators ≠ "" → HasNoWord separators →
        HasWords after.toList found →
          ∃ capitals, List.Forall₂ IsCapitalized found capitals ∧
            (slug (before ++ separators ++ after)).toList =
              (slug before).toList ++ capitals.flatten := by
  refine ⟨?_, ?_, ?_, ?_⟩
  · intro name
    exact ⟨words name.toList, HasWords.of_words name.toList, fun _ given => given.words_eq.symm⟩
  · intro name other found given alsoGiven
    rw [← String.toList_inj, slug_toList, slug_toList, given.words_eq, alsoGiven.words_eq]
  · intro name found given
    rw [slug_toList, given.words_eq]
    apply spellsWords_camelCase
    intro word inside
    exact (words_alphanumeric (given.words_eq ▸ inside)).1
  · intro before separators after found some nonempty none given
    have wordsBefore : words before.toList ≠ [] := fun empty => some (words_eq_nil_iff.mp empty)
    have filled : separators.toList ≠ [] := fun empty => nonempty (String.toList_inj.mp empty)
    refine ⟨found.map capitalized, forall₂_capitalized fun word inside =>
      (words_alphanumeric (given.words_eq ▸ inside)).1, ?_⟩
    rw [slug_toList, String.toList_append, String.toList_append,
      (HasWords.of_words _).words_append filled none, given.words_eq,
      camelCase_append wordsBefore, slug_toList]

/-- The same words stand between different separators, and one more follows them. -/
theorem slug_spellsWords_separators :
    HasWords "--Größe (İn".toList ["Größe".toList, "İn".toList] ∧
      HasWords "Größe_İn ".toList ["Größe".toList, "İn".toList] ∧
      slug "--Größe (İn" = slug "Größe_İn " ∧
      ¬ HasNoWord "--Größe (İn" ∧ HasNoWord " / " ∧ HasWords "mm)".toList ["mm".toList] ∧
      ∃ capitals, List.Forall₂ IsCapitalized ["mm".toList] capitals ∧
        (slug ("--Größe (İn" ++ " / " ++ "mm)")).toList =
          (slug "--Größe (İn").toList ++ capitals.flatten := by
  have hasWords {name : String} {found : List (List Char)} (cut : words name.toList = found) :
      HasWords name.toList found := cut ▸ HasWords.of_words name.toList
  have first : HasWords "--Größe (İn".toList ["Größe".toList, "İn".toList] :=
    hasWords (by decide +kernel)
  have second : HasWords "Größe_İn ".toList ["Größe".toList, "İn".toList] :=
    hasWords (by decide +kernel)
  have oneMore : HasWords "mm)".toList ["mm".toList] := hasWords (by decide +kernel)
  have some : ¬ HasNoWord "--Größe (İn" := by
    rw [HasNoWord, ← words_eq_nil_iff, first.words_eq]
    exact List.cons_ne_nil _ _
  have none : HasNoWord " / " := by
    rw [HasNoWord, ← words_eq_nil_iff]
    decide +kernel
  obtain ⟨-, same, -, longer⟩ := slug_spellsWords
  exact ⟨first, second, same _ _ _ first second, some, none, oneMore,
    longer _ _ _ _ some (by decide) none oneMore⟩

end AssetSearch.Catalog
