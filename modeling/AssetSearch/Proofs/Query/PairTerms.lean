/-
This file says which texts are the filter term of a pair with a field. The term of every pair is one
of them.
-/

import AssetSearch.Proofs.Query.FilterReader
import AssetSearch.Proofs.Query.Pairs

namespace AssetSearch.Query

open AssetSearch.Text
open AssetSearch.Time.FilterDate (milliseconds?)

/-- The literal stands for the operand. A number is kept, a time is counted, and any other text is
found between quotes, whatever follows them. -/
inductive IsLiteralOf (operand : String) : String → Prop
  | number (isNumber : Number.isFiniteNumeral operand.toList = true) : IsLiteralOf operand operand
  | time {milliseconds : Int} (noNumber : Number.isFiniteNumeral operand.toList = false)
      (isTime : milliseconds? operand.toList = some milliseconds) :
      IsLiteralOf operand (toString milliseconds)
  | text {literal : String} (noNumber : Number.isFiniteNumeral operand.toList = false)
      (noTime : milliseconds? operand.toList = none)
      (quoted : ∀ rest, readLiteral (literal.toList ++ rest) = some (.quoted operand, rest)) :
      IsLiteralOf operand literal

/-- The term has the name of the field, a mark and a literal, with single spaces between them. A
mark in front of the value is that of the term, and without one the term asks for the value. -/
inductive IsTermOf (field : String × String) : String → Prop
  | less {value operand literal : String} (strips : StripsQuotes field.2 value)
      (marked : trimmed value = "<" ++ operand)
      (isLiteral : IsLiteralOf (trimmed operand) literal) :
      IsTermOf field (field.1 ++ " < " ++ literal)
  | greater {value operand literal : String} (strips : StripsQuotes field.2 value)
      (marked : trimmed value = ">" ++ operand)
      (isLiteral : IsLiteralOf (trimmed operand) literal) :
      IsTermOf field (field.1 ++ " > " ++ literal)
  | equal {value literal : String} (strips : StripsQuotes field.2 value)
      (notLess : (trimmed value).toList.head? ≠ some '<')
      (notGreater : (trimmed value).toList.head? ≠ some '>')
      (isLiteral : IsLiteralOf (trimmed value) literal) :
      IsTermOf field (field.1 ++ " = " ++ literal)

theorem isLiteralOf_ofText (operand : String) :
    IsLiteralOf operand (FilterValue.ofText operand.toList).literal := by
  rw [FilterValue.ofText, String.ofList_toList]
  split
  · next isNumber => exact .number isNumber
  · next notNumber =>
      have noNumber := Bool.eq_false_iff.mpr notNumber
      split
      · next isTime => exact .time noNumber isTime
      · next noTime =>
          refine .text noNumber noTime ?_
          intro rest
          rw [FilterValue.literal, quotedLiteral, String.toList_ofList, readLiteral_quoted,
            String.ofList_toList]

theorem isLiteralOf_trim (operand : List Char) :
    IsLiteralOf (trimmed (String.ofList operand)) (FilterValue.ofText (trim operand)).literal := by
  have characters : (trimmed (String.ofList operand)).toList = trim operand := by
    rw [trimmed, String.toList_ofList, String.toList_ofList]
  rw [← characters]
  exact isLiteralOf_ofText _

/-- This is the filter term of a pair whose value is written as in the query. -/
def fieldTerm (field : String × String) : FilterTerm :=
  ⟨field.1, .ofValue (unquoted field.2)⟩

theorem isTermOf_text (field : String × String) : IsTermOf field (fieldTerm field).text := by
  have strips : StripsQuotes field.2 (unquoted field.2) := stripsQuotes_iff.mpr rfl
  have condition : (fieldTerm field).condition =
      .ofTrimmed (trimmed (unquoted field.2)).toList := by
    rw [trimmed, String.toList_ofList]
    rfl
  have text : ∀ {comparison value}, (fieldTerm field).condition = ⟨comparison, value⟩ →
      (fieldTerm field).text =
        field.1 ++ (" " ++ String.singleton comparison.mark ++ " ") ++ value.literal := by
    intro comparison value same
    rw [FilterTerm.text, same, fieldTerm]
    simp only [String.append_assoc]
  by_cases less : (trimmed (unquoted field.2)).toList.head? = some '<'
  · obtain ⟨operand, marked⟩ := List.head?_eq_some_iff.mp less
    rw [marked] at condition
    rw [text condition]
    exact .less strips (by simp [← String.toList_inj, marked]) (isLiteralOf_trim operand)
  by_cases greater : (trimmed (unquoted field.2)).toList.head? = some '>'
  · obtain ⟨operand, marked⟩ := List.head?_eq_some_iff.mp greater
    rw [marked] at condition
    rw [text condition]
    exact .greater strips (by simp [← String.toList_inj, marked]) (isLiteralOf_trim operand)
  · have unmarked : (fieldTerm field).condition =
        ⟨.equal, .ofText (trimmed (unquoted field.2)).toList⟩ := by
      rw [condition, Condition.ofTrimmed.eq_def]
      split
      · next rest marked => exact absurd (by rw [marked, List.head?_cons]) less
      · next rest marked => exact absurd (by rw [marked, List.head?_cons]) greater
      · rfl
    rw [text unmarked]
    exact .equal strips less greater (isLiteralOf_ofText _)

end AssetSearch.Query
