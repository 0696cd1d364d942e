/-
This file shows how the bytes of texts add up.
-/

import AssetSearch.Text.ByteLength

namespace AssetSearch.Text

@[simp] theorem byteLength_append (first second : List Char) :
    byteLength (first ++ second) = byteLength first + byteLength second := by
  induction first with
  | nil => simp [byteLength]
  | cons character rest inductionHypothesis =>
      simp only [List.cons_append, byteLength, inductionHypothesis]
      omega

theorem byteLength_take_le (characters : List Char) {first last : Nat} (ordered : first ≤ last) :
    byteLength (characters.take first) ≤ byteLength (characters.take last) := by
  obtain ⟨further, split⟩ := List.take_prefix_take_left ordered (l := characters)
  rw [← split, byteLength_append]
  omega

/-- The bytes of a text are the bytes of its characters. -/
theorem byteLength_toList (text : String) : byteLength text.toList = text.utf8ByteSize := by
  have general : ∀ characters : List Char,
      byteLength characters = (String.ofList characters).utf8ByteSize := by
    intro characters
    induction characters with
    | nil => rfl
    | cons character rest inductionHypothesis =>
        have split : String.ofList (character :: rest) =
            String.singleton character ++ String.ofList rest := by
          simp
        rw [split, String.utf8ByteSize_append, String.utf8ByteSize_singleton, byteLength,
          inductionHypothesis]
  rw [general, String.ofList_toList]

end AssetSearch.Text
