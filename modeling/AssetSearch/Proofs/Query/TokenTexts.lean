/-
This file looks at the texts of the tokens of a query. Blanks at the ends of a query do not change
them, and texts that are joined by single spaces are found again.
-/

import AssetSearch.Proofs.Query.Words

namespace AssetSearch.Query

open AssetSearch.Text

/-- These are the texts of the tokens of a query, in order. -/
def tokenTexts (query : String) : List String :=
  (tokens query.toList).map Token.text

theorem tokenTexts_isWord {query text : String} (inside : text ∈ tokenTexts query) :
    IsWord text.toList := by
  obtain ⟨token, member, rfl⟩ := List.mem_map.mp inside
  rw [Token.text, String.toList_ofList]
  exact isWord_of_mem_tokens member

/-- Only the last text of a query may hold a quote that is not closed. -/
theorem tokenTexts_closedBefore (query : String) :
    (tokenTexts query).Pairwise fun text _ => quotedAfter false text.toList = false := by
  rw [tokenTexts, List.pairwise_map]
  simp only [Token.text, String.toList_ofList]
  exact tokens_closedBefore query.toList

theorem map_text_shift (offset : Nat) (tokens : List Token) :
    (tokens.map (Token.shift offset)).map Token.text = tokens.map Token.text := by
  rw [List.map_map]
  rfl

/-- Blanks at the two ends of a query make no difference to the texts of its tokens. -/
theorem tokenTexts_trimmed (query : String) : tokenTexts (trimmed query) = tokenTexts query := by
  obtain ⟨before, blankBefore, starts⟩ := exists_append_trimStart query.toList
  obtain ⟨after, blankAfter, ends⟩ := exists_trimEnd_append (trimStart query.toList)
  have whole : query.toList = before ++ (trim query.toList ++ after) := by
    conv_lhs => rw [starts, ends]
    rfl
  rw [tokenTexts, tokenTexts, trimmed, String.toList_ofList]
  conv_rhs => rw [whole, tokens_blanks_append blankBefore, tokens_append_blanks _ blankAfter,
    map_text_shift]

/-- Words that are joined by single spaces are the tokens of the joined text, if the quotes of all
but the last one are closed. -/
theorem tokenTexts_intercalate {words : List String} (each : ∀ word ∈ words, IsWord word.toList)
    (closedBefore : words.Pairwise fun word _ => quotedAfter false word.toList = false) :
    tokenTexts (String.intercalate " " words) = words := by
  induction words with
  | nil => rfl
  | cons word rest inductionHypothesis =>
      have isWord := each word List.mem_cons_self
      have single : (tokens word.toList).map Token.text = [word] := by
        rw [isWord.tokens_eq]
        simp [Token.text]
      cases rest with
      | nil => rw [String.intercalate_singleton, tokenTexts, single]
      | cons next others =>
          rw [List.pairwise_cons] at closedBefore
          have closed := closedBefore.1 next List.mem_cons_self
          have later := inductionHypothesis
            (fun other inside => each other (List.mem_cons_of_mem _ inside)) closedBefore.2
          have space : AllBlank [' '] := allBlank_cons.mpr ⟨by decide, allBlank_nil⟩
          have split : (String.intercalate " " (word :: next :: others)).toList =
              word.toList ++ ([' '] ++ (String.intercalate " " (next :: others)).toList) := by
            rw [String.intercalate_cons_cons, String.toList_append, String.toList_append,
              List.append_assoc]
            rfl
          rw [tokenTexts, split, tokens_append closed (List.cons_ne_nil _ _) space, List.map_append,
            map_text_shift, single, ← tokenTexts, later]
          rfl

example : tokenTexts "  \"red  chair\" is:tag \"a  " =
    ["\"red  chair\"", "is:tag", "\"a"] := by decide

/-- A text of joined words is not empty and has no blank at either end. -/
theorem solid_intercalate {words : List String} (nonempty : words ≠ [])
    (each : ∀ word ∈ words, IsWord word.toList) :
    (String.intercalate " " words).toList ≠ [] ∧
      StartsSolid (String.intercalate " " words).toList ∧
        EndsSolid (String.intercalate " " words).toList := by
  induction words with
  | nil => exact absurd rfl nonempty
  | cons word rest inductionHypothesis =>
      have isWord := each word List.mem_cons_self
      cases rest with
      | nil =>
          rw [String.intercalate_singleton]
          exact ⟨isWord.nonempty, isWord.starts, isWord.ends⟩
      | cons next others =>
          obtain ⟨someLater, -, ends⟩ := inductionHypothesis (List.cons_ne_nil _ _)
            (fun other inside => each other (List.mem_cons_of_mem _ inside))
          rw [String.intercalate_cons_cons, String.toList_append, String.toList_append]
          refine ⟨?_, ?_, (endsSolid_append someLater).mpr ends⟩
          · simp [isWord.nonempty]
          · rw [List.append_assoc]
            exact (startsSolid_append isWord.nonempty).mpr isWord.starts

end AssetSearch.Query
