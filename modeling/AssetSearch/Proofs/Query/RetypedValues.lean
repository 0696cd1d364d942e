/-
This file shows that a condition that is typed again, in the form in which it was understood, gives
the same filter term, and that blanks around a value and behind its mark make no difference.
-/

import AssetSearch.Proofs.Number.FiniteNumerals
import AssetSearch.Proofs.Text.Blank
import AssetSearch.Proofs.Time.FilterTimes
import AssetSearch.Query.Condition

namespace AssetSearch.Query

open AssetSearch.Number
open AssetSearch.Text

/-- A time is typed as the number of its milliseconds. -/
def FilterValue.typed : FilterValue → String
  | number numeral => numeral
  | timestamp milliseconds => toString milliseconds
  | text content => content

/-- Equality needs no mark. -/
def Comparison.typedMark : Comparison → List Char
  | equal => []
  | less => ['<']
  | greater => ['>']

def Condition.typed (condition : Condition) : String :=
  String.ofList condition.comparison.typedMark ++ condition.value.typed

/-- The mark that a value may begin with is less or greater. -/
def IsMark (character : Char) : Prop :=
  character = '<' ∨ character = '>'

instance (character : Char) : Decidable (IsMark character) := inferInstanceAs (Decidable (_ ∨ _))

/-- The body of a value stands behind its mark. Without a mark it does not begin with one, so that
a second mark belongs to the body. -/
structure IsBody (comparison : Comparison) (body : List Char) : Prop where
  starts : StartsSolid body
  ends : EndsSolid body
  noMark : comparison = .equal → ∀ first ∈ body.head?, ¬ IsMark first

theorem ofTrimmed_unmarked {characters : List Char}
    (noMark : ∀ first ∈ characters.head?, ¬ IsMark first) :
    Condition.ofTrimmed characters = ⟨.equal, .ofText characters⟩ := by
  rw [Condition.ofTrimmed.eq_def]
  split
  · exact absurd (Or.inl rfl) (noMark '<' rfl)
  · exact absurd (Or.inr rfl) (noMark '>' rfl)
  · rfl

/-- Whatever blanks stand before the mark and behind it, the value is what stands between them. -/
theorem ofValue_marked {comparison : Comparison} (marked : comparison ≠ .equal)
    {blanks : List Char} (blank : AllBlank blanks) (rest : List Char) :
    Condition.ofValue (String.ofList (blanks ++ (comparison.typedMark ++ rest))) =
      ⟨comparison, .ofText (trim rest)⟩ := by
  rw [Condition.ofValue, String.toList_ofList, trim_blanks_append blank, ← trim_trimEnd rest]
  cases comparison with
  | equal => exact absurd rfl marked
  | less => exact congrArg Condition.ofTrimmed (trim_cons (by decide) rest)
  | greater => exact congrArg Condition.ofTrimmed (trim_cons (by decide) rest)

/-- Every value is understood as a mark and a body. -/
theorem exists_isBody (value : String) : ∃ comparison body, IsBody comparison body ∧
    Condition.ofValue value = ⟨comparison, .ofText body⟩ := by
  have solid (rest : List Char) {comparison : Comparison} (marked : comparison ≠ .equal) :
      IsBody comparison (trim rest) :=
    ⟨startsSolid_trim rest, endsSolid_trim rest, fun equal => absurd equal marked⟩
  rw [Condition.ofValue, Condition.ofTrimmed.eq_def]
  split
  · next rest _ => exact ⟨.less, trim rest, solid rest (by decide), rfl⟩
  · next rest _ => exact ⟨.greater, trim rest, solid rest (by decide), rfl⟩
  · next notLess notGreater =>
      refine ⟨.equal, trim value.toList,
        ⟨startsSolid_trim _, endsSolid_trim _, fun _ first begins mark => ?_⟩, rfl⟩
      obtain ⟨rest, same⟩ := List.head?_eq_some_iff.mp begins
      rcases mark with rfl | rfl
      · exact notLess rest same
      · exact notGreater rest same

namespace IsBody

variable {comparison : Comparison} {body : List Char}

theorem ofValue_eq (isBody : IsBody comparison body) :
    Condition.ofValue (String.ofList (comparison.typedMark ++ body)) =
      ⟨comparison, .ofText body⟩ := by
  have whole : trim body = body := trim_eq_self isBody.starts isBody.ends
  by_cases marked : comparison = .equal
  · subst marked
    change Condition.ofValue (String.ofList body) = _
    rw [Condition.ofValue, String.toList_ofList, whole, ofTrimmed_unmarked (isBody.noMark rfl)]
  · have read := ofValue_marked marked allBlank_nil body
    rwa [List.nil_append, whole] at read

/-- The digits of a number are a body, and so is a minus before them. -/
theorem ofNumeral {numeral : List Char} (allNumeral : AllNumeral numeral) :
    IsBody comparison numeral := by
  have solid (character : Char) (inside : character ∈ numeral) :
      isBlank character = false ∧ ¬ IsMark character := by
    have isNumeral := allNumeral character inside
    rw [isNumeralCharacter, Bool.or_eq_true, List.contains_iff_mem] at isNumeral
    rcases isNumeral with digit | sign
    · refine ⟨Time.isBlank_ofIsDigit digit, ?_⟩
      rintro (rfl | rfl)
      · cases digit
      · cases digit
    · simp only [List.mem_cons, List.not_mem_nil, or_false] at sign
      rcases sign with rfl | rfl | rfl | rfl | rfl <;> decide
  exact ⟨fun first begins => (solid first (List.mem_of_head? begins)).1,
    fun last ends => (solid last (List.mem_of_getLast? ends)).1,
    fun _ first begins => (solid first (List.mem_of_head? begins)).2⟩

end IsBody

namespace FilterValue

/-- A time that is typed as its milliseconds is a number. -/
theorem ofText_milliseconds {characters : List Char} {milliseconds : Int}
    (time : Time.FilterDate.milliseconds? characters = some milliseconds) :
    ofText (toString milliseconds).toList = .number (toString milliseconds) := by
  have fits : 2 ^ 63 < overflowBound := by decide +kernel
  have bounds := Time.FilterDate.milliseconds?_bounds time
  have finite := isFiniteNumeral_integer (show milliseconds.natAbs < overflowBound by omega)
  rw [ofText, if_pos finite, String.ofList_toList]

/-- A number and a text are typed as they are. -/
theorem typed_ofText (characters : List Char) :
    (ofText characters).typed = String.ofList characters ∨
      ∃ milliseconds, Time.FilterDate.milliseconds? characters = some milliseconds ∧
        ofText characters = .timestamp milliseconds := by
  rw [ofText]
  split
  · exact Or.inl rfl
  · split
    · next milliseconds time => exact Or.inr ⟨milliseconds, time, rfl⟩
    · exact Or.inl rfl

/-- A body that is typed again is a body, and stands for the same literal. -/
theorem ofText_typed {comparison : Comparison} {body : List Char}
    (isBody : IsBody comparison body) :
    IsBody comparison (ofText body).typed.toList ∧
      (ofText (ofText body).typed.toList).literal = (ofText body).literal := by
  rcases typed_ofText body with same | ⟨milliseconds, time, value⟩
  · rw [same, String.toList_ofList]
    exact ⟨isBody, rfl⟩
  · rw [value]
    refine ⟨IsBody.ofNumeral (integer_allNumeral milliseconds).2, ?_⟩
    change (ofText (toString milliseconds).toList).literal = _
    rw [ofText_milliseconds time]
    rfl

end FilterValue

/-- A condition that is typed again gives the same term of every field, although a time has become
a number. Blanks in front, at the end and directly behind the mark change nothing. -/
theorem retyped_givesSameTerm (value : String) :
    (∀ field, FilterTerm.text ⟨field, .ofValue (Condition.ofValue value).typed⟩ =
      FilterTerm.text ⟨field, .ofValue value⟩) ∧
    (∀ before after, AllBlank before → AllBlank after →
      Condition.ofValue (String.ofList (before ++ value.toList ++ after)) = .ofValue value) ∧
    ∀ before mark blanks rest, value.toList = before ++ mark :: rest → AllBlank before →
      IsMark mark → AllBlank blanks →
        Condition.ofValue (String.ofList (before ++ mark :: (blanks ++ rest))) =
          .ofValue value := by
  refine ⟨?_, ?_, ?_⟩
  · intro field
    obtain ⟨comparison, body, isBody, understood⟩ := exists_isBody value
    obtain ⟨again, literal⟩ := FilterValue.ofText_typed isBody
    have typed : (Condition.ofValue value).typed =
        String.ofList (comparison.typedMark ++ (FilterValue.ofText body).typed.toList) := by
      rw [understood, Condition.typed, String.ofList_append, String.ofList_toList]
    rw [typed, again.ofValue_eq, understood]
    simp only [FilterTerm.text, literal]
  · intro before after blankBefore blankAfter
    rw [Condition.ofValue, String.toList_ofList, trim_append_blanks _ blankAfter,
      trim_blanks_append blankBefore, Condition.ofValue]
  · intro before mark blanks rest written blankBefore isMark blank
    obtain ⟨comparison, marked, single⟩ : ∃ comparison : Comparison, comparison ≠ .equal ∧
        comparison.typedMark = [mark] := by
      rcases isMark with rfl | rfl
      · exact ⟨.less, by decide, rfl⟩
      · exact ⟨.greater, by decide, rfl⟩
    have understood := ofValue_marked marked blankBefore
    rw [single] at understood
    calc Condition.ofValue (String.ofList (before ++ mark :: (blanks ++ rest)))
        = ⟨comparison, .ofText (trim (blanks ++ rest))⟩ := understood _
      _ = ⟨comparison, .ofText (trim rest)⟩ := by rw [trim_blanks_append blank]
      _ = Condition.ofValue (String.ofList (before ++ mark :: rest)) := (understood rest).symm
      _ = Condition.ofValue value := by rw [← written, String.ofList_toList]

/-- The time before the epoch is typed as a negative number, and the second mark is a text. -/
theorem retyped_givesSameTerm_beforeEpoch :
    (Condition.ofValue "\u2003> 1969-12-31T23:59:59.999Z").typed = ">-1" ∧
      FilterTerm.text ⟨"made", .ofValue ">-1"⟩ = "made > -1" ∧
      FilterTerm.text ⟨"made", .ofValue "\u2003> 1969-12-31T23:59:59.999Z"⟩ = "made > -1" ∧
      Condition.ofValue ">\u3000>" = .ofValue ">>" ∧
      Condition.ofValue " >> " = .ofValue ">>" := by
  have typed : (Condition.ofValue "\u2003> 1969-12-31T23:59:59.999Z").typed = ">-1" := by
    decide +kernel
  have term : FilterTerm.text ⟨"made", .ofValue ">-1"⟩ = "made > -1" := by decide +kernel
  have same := (retyped_givesSameTerm "\u2003> 1969-12-31T23:59:59.999Z").1 "made"
  rw [typed] at same
  exact ⟨typed, term, same.symm.trans term,
    (retyped_givesSameTerm ">>").2.2 [] '>' ['\u3000'] ['>'] rfl allBlank_nil (by decide)
      (by decide),
    (retyped_givesSameTerm ">>").2.1 [' '] [' '] (by decide) (by decide)⟩

end AssetSearch.Query
