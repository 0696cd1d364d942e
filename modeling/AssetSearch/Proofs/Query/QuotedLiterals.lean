/-
This file shows that a quoted literal says where it ends: it is read back whatever follows it, so
that no literal begins another one.
-/

import AssetSearch.Proofs.Query.FilterReader
import Mathlib.Data.List.Basic

namespace AssetSearch.Query

/-- A literal is read from the start of a text, and what follows it is left over. -/
def readQuotedLiteral (text : String) : Option (String × String) :=
  match text.toList with
  | '"' :: inside =>
      (readQuoted inside).map fun read => (String.ofList read.1, String.ofList read.2)
  | _ => none

theorem readQuotedLiteral_append (text rest : String) :
    readQuotedLiteral (quotedLiteral text ++ rest) = some (text, rest) := by
  have opened : (quotedLiteral text ++ rest).toList =
      '"' :: (escape text.toList ++ '"' :: rest.toList) := by
    simp [quotedLiteral, quote, String.toList_append]
  simp only [readQuotedLiteral, opened, readQuoted_escape, Option.map_some, String.ofList_toList]

/-- Two texts that begin with literals are the same only part by part. -/
theorem quotedLiteral_append_inj {first second rest tail : String} :
    quotedLiteral first ++ rest = quotedLiteral second ++ tail ↔ first = second ∧ rest = tail := by
  constructor
  · intro same
    have read := readQuotedLiteral_append first rest
    rw [same, readQuotedLiteral_append] at read
    cases read
    exact ⟨rfl, rfl⟩
  · rintro ⟨rfl, rfl⟩
    rfl

/-- A literal is read back and nothing after it is touched. Different texts have different
literals, and none of these continues another one. -/
theorem quotedLiteral_isSelfDelimiting :
    (∀ text rest, readQuotedLiteral (quotedLiteral text ++ rest) = some (text, rest)) ∧
      Function.Injective quotedLiteral ∧
      ∀ first second rest,
        quotedLiteral first ++ rest = quotedLiteral second ↔ first = second ∧ rest = "" := by
  refine ⟨readQuotedLiteral_append, ?_, ?_⟩
  · intro first second same
    exact (quotedLiteral_append_inj.mp (congrArg (· ++ "") same)).1
  · intro first second rest
    rw [← quotedLiteral_append_inj, String.append_empty]

end AssetSearch.Query
