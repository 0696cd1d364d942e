/-
This file compares the full change to lower case with the one that knows only the letters A to Z.
The two agree wherever the result holds no character that longer characters are also lowered to.
-/

import AssetSearch.Proofs.Text.CaseImages

namespace AssetSearch.Text

/-- The character takes up one byte. -/
def IsAscii (character : Char) : Prop := character.toNat < 0x80

instance (character : Char) : Decidable (IsAscii character) := inferInstanceAs (Decidable (_ < _))

/-- The letters i and k are also the small forms of a dotted capital and of the sign for kelvin. -/
def IsNative (character : Char) : Prop :=
  IsAscii character ∧ character ≠ '\x00' ∧ character ≠ 'i' ∧ character ≠ 'k'

instance (character : Char) : Decidable (IsNative character) :=
  inferInstanceAs (Decidable (_ ∧ _))

def AllNative (characters : List Char) : Prop :=
  ∀ character ∈ characters, IsNative character

instance (characters : List Char) : Decidable (AllNative characters) :=
  List.decidableBAll _ characters

/-- These are the code points of the native characters. -/
def nativeIntervals : Intervals := [(0x1, 0x68), (0x6A, 0x6A), (0x6C, 0x7F)]

theorem isOutside_native_iff {character : Char} :
    IsOutside nativeIntervals character.toNat ↔ ¬ IsNative character := by
  have null : character = '\x00' ↔ character.toNat = 0 := Char.toNat_inj.symm
  have dotted : character = 'i' ↔ character.toNat = 0x69 := Char.toNat_inj.symm
  have kelvin : character = 'k' ↔ character.toNat = 0x6B := Char.toNat_inj.symm
  simp only [IsOutside, nativeIntervals, List.forall_mem_cons, List.not_mem_nil, false_implies,
    implies_true, and_true, IsNative, IsAscii, ne_eq, null, dotted, kelvin]
  omega

theorem lowerOf_ascii {character : Char} (ascii : IsAscii character) :
    lowerOf character = [character.toLower] := by
  have all : ∀ code < 0x80, lowerOf (Char.ofNat code) = [(Char.ofNat code).toLower] := by
    decide +kernel
  have found := all character.toNat ascii
  rwa [Char.ofNat_toNat] at found

theorem toLower_notAscii {character : Char} (foreign : ¬ IsAscii character) :
    character.toLower = character := by
  refine dif_neg ?_
  rintro ⟨-, upper⟩
  have bound : character.toNat ≤ 'Z'.toNat := UInt32.le_iff_toNat_le.mp upper
  exact foreign (Nat.lt_of_le_of_lt bound (by decide))

/-- No longer character is lowered to a native one. Of all the runs only the first one, which is
that of the letters A to Z, leads to native characters. -/
theorem lowerOf_notNative {character : Char} (foreign : ¬ IsAscii character) :
    ∀ image ∈ lowerOf character, ¬ IsNative image := by
  have leads : LeadsOutside nativeIntervals lowerRuns.tail lowerExpansions :=
    ⟨by decide, by decide +kernel, by decide +kernel⟩
  have runs : lowerRuns = ⟨0x41, 0x5A, 1, 32⟩ :: lowerRuns.tail := rfl
  have large : 0x80 ≤ character.toNat := Nat.not_lt.mp foreign
  have skipped : lowerOf character = caseImage lowerRuns.tail lowerExpansions character := by
    rw [lowerOf, caseImage, caseImage, runs, CaseRun.image,
      if_neg (show ¬ character.toNat < 0x41 by omega),
      if_neg (show ¬ character.toNat ≤ 0x5A by omega)]
    rfl
  have outside : IsOutside nativeIntervals character.toNat :=
    isOutside_native_iff.mpr fun native => foreign native.1
  intro image inside
  rw [skipped] at inside
  exact isOutside_native_iff.mp (leads.caseImage outside image inside)

theorem lowerAfter_eq_iff {word : List Char} (native : AllNative word)
    (reversedContext characters : List Char) :
    lowerAfter reversedContext characters = word ↔ characters.map Char.toLower = word := by
  induction characters generalizing reversedContext word with
  | nil => exact Iff.rfl
  | cons character rest inductionHypothesis =>
      obtain ⟨images, split, shape⟩ := lowerAfter_cons reversedContext character rest
      rw [split, List.map_cons]
      by_cases ascii : IsAscii character
      · have single : images = [character.toLower] := by
          rcases shape with rfl | ⟨rfl, -⟩
          · exact lowerOf_ascii ascii
          · exact absurd ascii (by decide)
        rw [single, List.singleton_append]
        cases word with
        | nil => simp
        | cons first later =>
            rw [List.cons.injEq, List.cons.injEq,
              inductionHypothesis (List.forall_mem_cons.mp native).2]
      · -- Neither side can be the word, which has native characters only.
        have notNative : ∀ image ∈ images, ¬ IsNative image := by
          rcases shape with rfl | ⟨-, rfl⟩
          · exact lowerOf_notNative ascii
          · exact List.forall_mem_singleton.mpr (by decide)
        have filled : images ≠ [] := by
          rcases shape with rfl | ⟨-, rfl⟩
          · exact lowerOf_ne_nil character
          · exact List.cons_ne_nil _ _
        obtain ⟨image, others, rfl⟩ := List.exists_cons_of_ne_nil filled
        rw [toLower_notAscii ascii]
        refine iff_of_false ?_ ?_
        · rintro rfl
          exact notNative image List.mem_cons_self (native image List.mem_cons_self)
        · rintro rfl
          exact ascii (native character List.mem_cons_self).1

/-- A text is lowered to a word of native characters only by the letters A to Z. -/
theorem lowerCase_eq_iff {word : List Char} (native : AllNative word)
    (characters : List Char) :
    lowerCase characters = word ↔ characters.map Char.toLower = word :=
  lowerAfter_eq_iff native [] characters

/-- The letter k is not native, since the sign for kelvin becomes one. -/
example : lowerCase ['\u212A'] = ['k'] ∧ ['\u212A'].map Char.toLower ≠ ['k'] := by decide +kernel

end AssetSearch.Text
