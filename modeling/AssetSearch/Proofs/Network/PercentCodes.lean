/-
This file shows that percent codes lose nothing: what was encoded is decoded to the same text, and
a delimiter that is encoded does not occur in the code.
-/

import AssetSearch.Network.Percent
import Mathlib.Data.String.Basic

namespace AssetSearch.Network

variable {mustEncode : Char → Bool} {characters rest : List Char} {character delimiter : Char}

/-- Codes consist of percent signs and capital hexadecimal digits. -/
def isCodeCharacter (character : Char) : Bool :=
  character = '%' || character.isDigit || ('A' ≤ character && character ≤ 'F')

theorem upperHexValue?_upperHexDigit {digit : Nat} (small : digit < 16) :
    upperHexValue? (upperHexDigit digit) = some digit := by
  have every : ∀ digit < 16, upperHexValue? (upperHexDigit digit) = some digit := by decide
  exact every digit small

theorem isCodeCharacter_upperHexDigit {digit : Nat} (small : digit < 16) :
    isCodeCharacter (upperHexDigit digit) = true := by
  have every : ∀ digit < 16, isCodeCharacter (upperHexDigit digit) = true := by decide
  exact every digit small

theorem isCodeCharacter_of_mem_percentByte {byte : UInt8} (inside : character ∈ percentByte byte) :
    isCodeCharacter character = true := by
  have bounded : byte.toNat < 256 := byte.toNat_lt_size
  simp only [percentByte, List.mem_cons, List.not_mem_nil, or_false] at inside
  obtain rfl | rfl | rfl := inside
  · rfl
  · exact isCodeCharacter_upperHexDigit (by omega)
  · exact isCodeCharacter_upperHexDigit (by omega)

/-- A character is left as it is, or it belongs to the code of another one. -/
theorem mem_percentEncode (inside : character ∈ percentEncode mustEncode characters) :
    (character ∈ characters ∧ mustEncode character = false) ∨
      isCodeCharacter character = true := by
  obtain ⟨source, among, written⟩ := List.mem_flatMap.mp inside
  cases encoded : mustEncode source with
  | false =>
      rw [encoded, if_neg Bool.false_ne_true, List.mem_singleton] at written
      exact .inl ⟨written ▸ among, written ▸ encoded⟩
  | true =>
      rw [encoded, if_pos rfl] at written
      obtain ⟨byte, -, digits⟩ := List.mem_flatMap.mp written
      exact .inr (isCodeCharacter_of_mem_percentByte digits)

theorem not_mem_percentEncode (encoded : mustEncode delimiter = true)
    (noCode : isCodeCharacter delimiter = false) :
    delimiter ∉ percentEncode mustEncode characters := by
  intro inside
  obtain ⟨-, kept⟩ | code := mem_percentEncode inside
  · exact absurd (kept.symm.trans encoded) Bool.false_ne_true
  · exact absurd (noCode.symm.trans code) Bool.false_ne_true

theorem percentDecode_percentByte (byte : UInt8) (rest : List Char) :
    percentDecode (percentByte byte ++ rest) = byte :: percentDecode rest := by
  have bounded : byte.toNat < 256 := byte.toNat_lt_size
  have high : upperHexValue? (upperHexDigit (byte.toNat / 16)) = some (byte.toNat / 16) :=
    upperHexValue?_upperHexDigit (by omega)
  have low : upperHexValue? (upperHexDigit (byte.toNat % 16)) = some (byte.toNat % 16) :=
    upperHexValue?_upperHexDigit (by omega)
  have joined : 16 * (byte.toNat / 16) + byte.toNat % 16 = byte.toNat := by omega
  simp only [percentByte, List.cons_append, List.nil_append, percentDecode, high, low, joined,
    UInt8.ofNat_toNat]

theorem percentDecode_bytes (bytes : List UInt8) (rest : List Char) :
    percentDecode (bytes.flatMap percentByte ++ rest) = bytes ++ percentDecode rest := by
  induction bytes with
  | nil => rfl
  | cons byte later inductionHypothesis =>
      rw [List.flatMap_cons, List.append_assoc, percentDecode_percentByte, inductionHypothesis,
        List.cons_append]

theorem percentDecode_cons (plain : character ≠ '%') :
    percentDecode (character :: rest) =
      String.utf8EncodeChar character ++ percentDecode rest := by
  rw [percentDecode]
  rintro high low later rfl
  exact absurd rfl plain

/-- A percent sign that is encoded itself is never taken for the start of a code. -/
theorem percentDecode_percentEncode (percent : mustEncode '%' = true)
    (characters : List Char) :
    percentDecode (percentEncode mustEncode characters) =
      characters.flatMap String.utf8EncodeChar := by
  induction characters with
  | nil => rfl
  | cons first later inductionHypothesis =>
      rw [percentEncode, List.flatMap_cons, ← percentEncode, List.flatMap_cons,
        ← inductionHypothesis]
      cases encoded : mustEncode first with
      | true => exact percentDecode_bytes _ _
      | false =>
          have plain : first ≠ '%' := by
            rintro rfl
            exact absurd (encoded.symm.trans percent) Bool.false_ne_true
          exact percentDecode_cons plain

theorem decodedText?_percentEncode (percent : mustEncode '%' = true) (text : String) :
    decodedText? (percentEncode mustEncode text.toList) = some text := by
  have bytes : ByteArray.mk (text.toList.flatMap String.utf8EncodeChar).toArray =
      text.toByteArray := by
    rw [← String.utf8Encode_toList, List.utf8Encode]
    exact ByteArray.ext (by simp)
  rw [decodedText?, percentDecode_percentEncode percent, bytes, String.fromUTF8?,
    dif_pos text.isValidUTF8]
  rfl

end AssetSearch.Network
