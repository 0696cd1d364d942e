/-
This file shows that ordered texts stand in strictly increasing order, also when they are compared
byte by byte, and that no text is lost or made up.
-/

import AssetSearch.Text.ByteLength
import AssetSearch.Text.Ordered
import Mathlib.Order.Basic
import Mathlib.Data.String.Basic

namespace AssetSearch.Text

theorem mem_insertOrdered {text other : String} {texts : List String} :
    other ∈ insertOrdered text texts ↔ other = text ∨ other ∈ texts := by
  induction texts with
  | nil => simp [insertOrdered]
  | cons first later inductionHypothesis =>
      rw [insertOrdered]
      split
      · exact List.mem_cons
      · split
        · next same => simp [same]
        · rw [List.mem_cons, inductionHypothesis, List.mem_cons, or_left_comm]

/-- Each text stands before all larger ones. -/
def IsIncreasing (texts : List String) : Prop :=
  texts.Pairwise fun first second => first < second

theorem IsIncreasing.insertOrdered {texts : List String} (increasing : IsIncreasing texts)
    (text : String) : IsIncreasing (insertOrdered text texts) := by
  induction texts with
  | nil => exact List.pairwise_singleton _ _
  | cons first later inductionHypothesis =>
      obtain ⟨before, rest⟩ := List.pairwise_cons.mp increasing
      rw [Text.insertOrdered]
      split
      · next smaller =>
          refine List.Pairwise.cons ?_ increasing
          intro other inside
          rcases List.mem_cons.mp inside with same | further
          · rw [same]
            exact smaller
          · exact lt_trans smaller (before other further)
      · next notSmaller =>
          split
          · exact increasing
          · next different =>
              refine List.Pairwise.cons ?_ (inductionHypothesis rest)
              intro other inside
              rcases mem_insertOrdered.mp inside with same | further
              · rw [same]
                exact lt_of_le_of_ne (not_lt.mp notSmaller) (Ne.symm different)
              · exact before other further

/-- The encodings of two characters differ at a byte that both of them have. -/
theorem utf8EncodeChar_append_lt {first second : Char} (smaller : first < second)
    (later further : List UInt8) :
    String.utf8EncodeChar first ++ later < String.utf8EncodeChar second ++ further := by
  have codes : first.val.toNat < second.val.toNat := smaller
  have bounded : second.val.toNat < 1114112 := by
    have valid := second.valid
    simp only [UInt32.isValidChar, Nat.isValidChar] at valid
    omega
  simp only [String.utf8EncodeChar]
  generalize first.val.toNat = small at *
  generalize second.val.toNat = large at *
  have twoDigits : ∀ code : Nat, code / 4096 = code / 64 / 64 := by omega
  have threeDigits : ∀ code : Nat, code / 262144 = code / 64 / 64 / 64 := by omega
  simp only [twoDigits, threeDigits]
  -- The code of the longer encoding is larger, and so is its first byte. Encodings of the same
  -- length hold the digits of the codes in base 64, the one that counts most coming first.
  split_ifs
  all_goals
    simp only [List.cons_append, List.cons_lt_cons_iff, UInt8.lt_iff_toNat_lt,
      UInt8.toNat_ofNat', ← UInt8.toNat_inj]
    omega

/-- Texts that are compared character by character are compared byte by byte. -/
theorem bytes_lt {first second : String} (smaller : first < second) :
    bytes first < bytes second := by
  have general : ∀ characters others : List Char, characters < others →
      characters.flatMap String.utf8EncodeChar < others.flatMap String.utf8EncodeChar := by
    intro characters others given
    induction given with
    | @nil character rest =>
        have nonempty : String.utf8EncodeChar character ≠ [] := String.utf8EncodeChar_ne_nil
        obtain ⟨byte, later, encoded⟩ := List.exists_cons_of_ne_nil nonempty
        rw [List.flatMap_nil, List.flatMap_cons, encoded]
        exact List.nil_lt_cons _ _
    | rel headSmaller => exact utf8EncodeChar_append_lt headSmaller _ _
    | cons tailSmaller inductionHypothesis => exact List.append_left_lt inductionHypothesis
  exact general _ _ (String.lt_iff_toList_lt.mp smaller)

/-- The order of the bytes is the order of the texts. -/
theorem bytes_lt_iff {first second : String} : bytes first < bytes second ↔ first < second := by
  constructor
  · intro smaller
    rcases lt_trichotomy first second with before | rfl | after
    · exact before
    · exact absurd smaller (List.lt_irrefl _)
    · exact absurd smaller (List.lt_asymm (bytes_lt after))
  · exact bytes_lt

/-- Different texts have different bytes. -/
theorem bytes_inj {first second : String} : bytes first = bytes second ↔ first = second := by
  constructor
  · intro same
    rcases lt_trichotomy first second with before | equal | after
    · exact absurd (same ▸ bytes_lt before) (List.lt_irrefl _)
    · exact equal
    · exact absurd (same ▸ bytes_lt after) (List.lt_irrefl _)
  · exact congrArg bytes

end AssetSearch.Text
