/-
This file shows which values name a kind of entity: its name in letters of either case, with one of
three separators, and nothing else.
-/

import AssetSearch.Proofs.Text.AsciiCase
import AssetSearch.Proofs.Text.Blank
import AssetSearch.Query.Kind

namespace AssetSearch.Query.EntityKind

open AssetSearch.Text

/-- These are the spellings of the kinds in small letters. -/
inductive Spells : EntityKind → List Char → Prop
  | asset : Spells asset "asset".toList
  | tag : Spells tag "tag".toList
  | joined : Spells assetType "assettype".toList
  | separated {separator : Char} (listed : separator ∈ ['-', ' ', '_']) :
      Spells assetType ("asset".toList ++ separator :: "type".toList)

section

variable {separator : Char} {characters word : List Char}

theorem hyphenateFirst_absent (absent : separator ∉ characters) :
    hyphenateFirst separator characters = characters := by
  induction characters with
  | nil => rfl
  | cons character rest inductionHypothesis =>
      rw [List.mem_cons, not_or] at absent
      rw [hyphenateFirst, if_neg (Ne.symm absent.1), inductionHypothesis absent.2]

theorem hyphenateFirst_split {before : List Char} (absent : separator ∉ before)
    (after : List Char) :
    hyphenateFirst separator (before ++ separator :: after) = before ++ '-' :: after := by
  induction before with
  | nil => exact if_pos rfl
  | cons character rest inductionHypothesis =>
      rw [List.mem_cons, not_or] at absent
      rw [List.cons_append, hyphenateFirst, if_neg (Ne.symm absent.1), inductionHypothesis absent.2,
        List.cons_append]

/-- A word without the separator either stood there before, or has its hyphen for the separator. -/
theorem hyphenateFirst_eq_iff (absent : separator ∉ word) :
    hyphenateFirst separator characters = word ↔ characters = word ∨
      ∃ before after, characters = before ++ separator :: after ∧
        word = before ++ '-' :: after := by
  constructor
  · intro hyphenated
    by_cases inside : separator ∈ characters
    · obtain ⟨before, after, split, notBefore⟩ := List.eq_append_cons_of_mem inside
      rw [split, hyphenateFirst_split notBefore] at hyphenated
      exact Or.inr ⟨before, after, split, hyphenated.symm⟩
    · rw [hyphenateFirst_absent inside] at hyphenated
      exact Or.inl hyphenated
  · rintro (rfl | ⟨before, after, rfl, rfl⟩)
    · exact hyphenateFirst_absent absent
    · exact hyphenateFirst_split (fun inside => absent (List.mem_append_left _ inside)) after

/-- A word without a hyphen is not brought about by the separator. -/
theorem hyphenateFirst_eq_word_iff (absent : separator ∉ word) (noHyphen : '-' ∉ word) :
    hyphenateFirst separator characters = word ↔ characters = word := by
  rw [hyphenateFirst_eq_iff absent]
  refine or_iff_left ?_
  rintro ⟨before, after, -, rfl⟩
  exact noHyphen (List.mem_append_right _ List.mem_cons_self)

/-- The only hyphen of a word may have been the separator. -/
theorem hyphenateFirst_eq_hyphenated_iff {before after : List Char}
    (absent : separator ∉ before ++ '-' :: after) (first : '-' ∉ before) (last : '-' ∉ after) :
    hyphenateFirst separator characters = before ++ '-' :: after ↔
      characters = before ++ '-' :: after ∨ characters = before ++ separator :: after := by
  rw [hyphenateFirst_eq_iff absent]
  refine or_congr_right ⟨?_, ?_⟩
  · rintro ⟨otherBefore, otherAfter, rfl, same⟩
    -- The longer beginning has the hyphen of the other split, unless the two are one.
    rcases List.append_eq_append_iff.mp same with
      ⟨_ | ⟨hyphen, between⟩, rfl, rest⟩ | ⟨_ | ⟨hyphen, between⟩, rfl, rest⟩
    · obtain ⟨-, rfl⟩ := List.cons.inj rest
      rw [List.append_nil]
    · obtain ⟨-, rfl⟩ := List.cons.inj rest
      exact absurd (List.mem_append_right _ List.mem_cons_self) last
    · obtain ⟨-, rfl⟩ := List.cons.inj rest
      rw [List.append_nil]
    · obtain ⟨rfl, -⟩ := List.cons.inj rest
      exact absurd (List.mem_append_right _ List.mem_cons_self) first
  · rintro rfl
    exact ⟨before, after, rfl, rfl⟩

/-- Words without separators are not brought about by the hyphenation. -/
theorem hyphenate_eq_word_iff (noHyphen : '-' ∉ word) (noSpace : ' ' ∉ word)
    (noUnderscore : '_' ∉ word) :
    hyphenateFirst '_' (hyphenateFirst ' ' characters) = word ↔ characters = word := by
  rw [hyphenateFirst_eq_word_iff noUnderscore noHyphen,
    hyphenateFirst_eq_word_iff noSpace noHyphen]

/-- The space is exchanged first, and then the underscore, which only one of them can be. -/
theorem hyphenate_eq_assetType_iff :
    hyphenateFirst '_' (hyphenateFirst ' ' characters) = "asset-type".toList ↔
      ∃ separator ∈ ['-', ' ', '_'],
        characters = "asset".toList ++ separator :: "type".toList := by
  have hyphen : "asset-type".toList = "asset".toList ++ '-' :: "type".toList := rfl
  have underscore : hyphenateFirst ' ' characters = "asset".toList ++ '_' :: "type".toList ↔
      characters = "asset".toList ++ '_' :: "type".toList :=
    hyphenateFirst_eq_word_iff (by decide) (by decide)
  rw [hyphen, hyphenateFirst_eq_hyphenated_iff (by decide) (by decide) (by decide), underscore,
    hyphenateFirst_eq_hyphenated_iff (by decide) (by decide) (by decide)]
  simp only [List.mem_cons, List.not_mem_nil, or_false, exists_eq_or_imp, exists_eq_left, or_assoc]

end

theorem Spells.allNative {kind : EntityKind} {word : List Char} (spells : Spells kind word) :
    AllNative word := by
  cases spells with
  | asset => decide
  | tag => decide
  | joined => decide
  | separated listed =>
      simp only [List.mem_cons, List.not_mem_nil, or_false] at listed
      obtain rfl | rfl | rfl := listed <;> decide

/-- The spelling of a trimmed value is compared with the names after the hyphenation. -/
theorem ofValue?_eq_some_iff_lowerCase (value : String) (kind : EntityKind) :
    ofValue? value = some kind ↔ Spells kind (lowerCase (trim value.toList)) := by
  have assetIff : _ ↔ lowerCase (trim value.toList) = "asset".toList :=
    hyphenate_eq_word_iff (by decide) (by decide) (by decide)
  have joinedIff : _ ↔ lowerCase (trim value.toList) = "assettype".toList :=
    hyphenate_eq_word_iff (by decide) (by decide) (by decide)
  have tagIff : _ ↔ lowerCase (trim value.toList) = "tag".toList :=
    hyphenate_eq_word_iff (by decide) (by decide) (by decide)
  simp only [ofValue?, assetIff, hyphenate_eq_assetType_iff, joinedIff, tagIff, Bool.or_eq_true,
    decide_eq_true_eq]
  generalize lowerCase (trim value.toList) = spelling
  constructor
  · intro found
    split at found
    · next same =>
        cases found
        exact same ▸ .asset
    · split at found
      · next shape =>
          cases found
          rcases shape with ⟨separator, listed, rfl⟩ | rfl
          · exact .separated listed
          · exact .joined
      · split at found
        · next same =>
            cases found
            exact same ▸ .tag
        · cases found
  · intro spells
    cases spells with
    | asset => exact if_pos rfl
    | tag =>
        have notSeparated : ¬ ∃ separator ∈ ['-', ' ', '_'],
            "tag".toList = "asset".toList ++ separator :: "type".toList := by
          rintro ⟨separator, -, same⟩
          cases same
        rw [if_neg (by decide), if_neg (not_or.mpr ⟨notSeparated, by decide⟩), if_pos rfl]
    | joined => rw [if_neg (by decide), if_pos (Or.inr rfl)]
    | @separated separator listed =>
        have notAsset : "asset".toList ++ separator :: "type".toList ≠ "asset".toList :=
          mt List.append_right_eq_self.mp (List.cons_ne_nil _ _)
        rw [if_neg notAsset, if_pos (Or.inl ⟨_, listed, rfl⟩)]

/-- Only the letters A to Z have to be lowered, since no other character becomes one of a name. -/
theorem spells_lowerCase_iff {kind : EntityKind} {characters : List Char} :
    Spells kind (lowerCase characters) ↔ Spells kind (characters.map Char.toLower) := by
  constructor
  · intro spells
    rwa [(lowerCase_eq_iff spells.allNative characters).mp rfl]
  · intro spells
    rwa [(lowerCase_eq_iff spells.allNative characters).mpr rfl]

theorem isBlank_toLower (character : Char) : isBlank character.toLower = isBlank character := by
  by_cases ascii : IsAscii character
  · have all : ∀ code < 0x80, isBlank (Char.ofNat code).toLower = isBlank (Char.ofNat code) := by
      decide +kernel
    have found := all character.toNat ascii
    rwa [Char.ofNat_toNat] at found
  · rw [toLower_notAscii ascii]

theorem Spells.isSolid {kind : EntityKind} {word : List Char} (spells : Spells kind word) :
    StartsSolid word ∧ EndsSolid word := by
  cases spells with
  | asset => decide
  | tag => decide
  | joined => decide
  | separated listed =>
      simp only [List.mem_cons, List.not_mem_nil, or_false] at listed
      obtain rfl | rfl | rfl := listed <;> decide

/-- A spelling has no blanks around it, whatever the case of its letters. -/
theorem Spells.trim_eq_self {kind : EntityKind} {word : List Char}
    (spells : Spells kind (word.map Char.toLower)) : trim word = word := by
  obtain ⟨starts, ends⟩ := spells.isSolid
  refine Text.trim_eq_self ?_ ?_
  · intro character first
    rw [← isBlank_toLower]
    exact starts _ (by rw [List.head?_map, first]; rfl)
  · intro character last
    rw [← isBlank_toLower]
    exact ends _ (by rw [List.getLast?_map, last]; rfl)

/-- The value consists of a spelling of the kind in letters of either case, and of blanks on both
sides of it. -/
def IsNamedBy (kind : EntityKind) (value : String) : Prop :=
  ∃ before word after, value.toList = before ++ word ++ after ∧ AllBlank before ∧ AllBlank after ∧
    Spells kind (word.map Char.toLower)

theorem ofValue?_eq_some_iff (value : String) (kind : EntityKind) :
    ofValue? value = some kind ↔ kind.IsNamedBy value := by
  rw [ofValue?_eq_some_iff_lowerCase, spells_lowerCase_iff]
  constructor
  · intro spells
    obtain ⟨before, blankBefore, rest⟩ := exists_append_trimStart value.toList
    obtain ⟨after, blankAfter, middle⟩ := exists_trimEnd_append (trimStart value.toList)
    refine ⟨before, trim value.toList, after, ?_, blankBefore, blankAfter, spells⟩
    rw [List.append_assoc, trim, ← middle, ← rest]
  · rintro ⟨before, word, after, split, blankBefore, blankAfter, spells⟩
    rwa [split, trim_append_blanks _ blankAfter, trim_blanks_append blankBefore,
      spells.trim_eq_self]

/-- A value names a kind if and only if it is one of the kind's spellings, and no kind if it is
none of any kind. -/
theorem ofValue?_acceptsSpellings (value : String) :
    (∀ kind, ofValue? value = some kind ↔ kind.IsNamedBy value) ∧
      (ofValue? value = none ↔ ∀ kind : EntityKind, ¬ kind.IsNamedBy value) := by
  refine ⟨ofValue?_eq_some_iff value, ?_⟩
  rw [Option.eq_none_iff_forall_ne_some]
  exact forall_congr' fun kind => not_congr (ofValue?_eq_some_iff value kind)

/-- Letters of either case, a separator and foreign blanks around it are accepted; a second
separator is not. -/
example : ofValue? "\u3000aSSeT_Type\t" = some assetType ∧ ofValue? "asset--type" = none := by
  decide +kernel

end AssetSearch.Query.EntityKind
