/-
This file shows that the numerals of the format are recognized: a typed numeral without a plus,
without a superfluous zero, and with a digit on each side of its point.
-/

import AssetSearch.Json.Document
import AssetSearch.Proofs.Json.Integers
import AssetSearch.Proofs.Json.WrittenTokens
import AssetSearch.Proofs.Number.TypedNumerals

namespace AssetSearch.Json

open AssetSearch.Number

/-- Behind a point there must be digits. -/
def afterPlaces (characters : List Char) : Bool × List Char :=
  match characters with
  | '.' :: rest => (!(rest.takeWhile Char.isDigit).isEmpty, rest.dropWhile Char.isDigit)
  | _ => (true, characters)

/-- A missing exponent counts as zero. -/
def exponentDigits? : List Char → Option (List Char)
  | mark :: '+' :: rest => if mark = 'e' || mark = 'E' then some rest else none
  | mark :: '-' :: rest => if mark = 'e' || mark = 'E' then some rest else none
  | mark :: rest => if mark = 'e' || mark = 'E' then some rest else none
  | [] => some ['0']

/-- Behind the minus the parts of the numeral are checked one after the other. -/
theorem isNumeral_minus (characters : List Char) :
    isNumeral ('-' :: characters) =
      match exponentDigits? (afterPlaces (characters.dropWhile Char.isDigit)).2 with
      | none => false
      | some digits =>
          !(characters.takeWhile Char.isDigit).isEmpty &&
            ((characters.takeWhile Char.isDigit).head? != some '0' ||
              (characters.takeWhile Char.isDigit).length == 1) &&
            (afterPlaces (characters.dropWhile Char.isDigit)).1 &&
            !digits.isEmpty && digits.all Char.isDigit := by
  rw [isNumeral]
  simp only
  rfl

theorem isNumeral_unsigned {characters : List Char} (stops : StopsSign characters) :
    isNumeral characters = isNumeral ('-' :: characters) := by
  rw [isNumeral.eq_def, isNumeral]
  split
  · exact absurd rfl (stops '-' rfl).2
  · rfl

theorem afterPlaces_fraction {fraction? : Option (List Char)} (filled : fraction? ≠ some [])
    (allDigits : ∀ digit ∈ fraction?.getD [], digit.isDigit = true)
    (exponent? : Option ExponentPart) :
    afterPlaces (fractionText fraction? ++ exponentText exponent?) =
      (true, exponentText exponent?) := by
  cases fraction? with
  | none =>
      rw [fractionText, List.nil_append, afterPlaces]
      intro rest same
      have point : '.' ∈ (exponentText exponent?).head? := same ▸ rfl
      exact absurd (head?_exponentText point) (by decide)
  | some digits =>
      obtain ⟨taken, dropped⟩ := takeWhile_digits allDigits (exponentText_stopsDigits exponent?)
      simp only [Option.getD_some] at taken dropped
      rw [fractionText, List.cons_append, afterPlaces]
      simp only [taken, dropped]
      cases digits with
      | nil => exact absurd rfl filled
      | cons => rfl

theorem exponentDigits?_exponentText (exponent? : Option ExponentPart) :
    ∃ digits, exponentDigits? (exponentText exponent?) = some digits ∧ digits ≠ [] ∧
      ∀ digit ∈ digits, digit.isDigit = true := by
  cases exponent? with
  | none => exact ⟨['0'], rfl, by decide, List.forall_mem_singleton.mpr (by decide)⟩
  | some part =>
      refine ⟨part.digits, ?_, part.filled, part.allDigits⟩
      have mark : (part.mark = 'e' || part.mark = 'E') = true := by simpa using part.isMark
      rw [exponentText, ExponentPart.text]
      cases part.sign with
      | plus => exact if_pos mark
      | minus => exact if_pos mark
      | absent =>
          -- A digit at the start is neither of the two signs.
          obtain ⟨first, later, same⟩ := List.exists_cons_of_ne_nil part.filled
          obtain ⟨notPlus, notMinus⟩ := stopsSign_digits part.allDigits first (by rw [same]; rfl)
          rw [Sign.text, List.nil_append, same, exponentDigits?, if_pos mark]
          · rintro rest ⟨⟩
            exact notPlus rfl
          · rintro rest ⟨⟩
            exact notMinus rfl

/-- A numeral of the format is stricter than a typed one. -/
structure IsStrict (numeral : TypedNumeral) : Prop where
  noPlus : numeral.sign ≠ .plus
  whole : IsDecimal numeral.whole
  places : numeral.fraction? ≠ some []

namespace IsStrict

variable {numeral : TypedNumeral}

theorem isNumeral (strict : IsStrict numeral) : Json.isNumeral numeral.text = true := by
  obtain ⟨taken, dropped⟩ := takeWhile_digits numeral.wholeDigits numeral.tail_stopsDigits
  have leading : (numeral.whole.head? != some '0' || numeral.whole.length == 1) = true := by
    obtain ⟨first, later, cut, -⟩ := strict.whole.exists_cons
    by_cases zero : first = '0'
    · rw [cut, strict.whole.noZero later (zero ▸ cut)]
      exact Bool.or_true _
    · simp [cut, zero]
  have places := afterPlaces_fraction strict.places numeral.fractionDigits numeral.exponent?
  obtain ⟨digits, exponent, filled, allDigits⟩ := exponentDigits?_exponentText numeral.exponent?
  have negative : Json.isNumeral ('-' :: (numeral.whole ++ numeral.tail)) = true := by
    rw [isNumeral_minus, taken, dropped, leading, TypedNumeral.tail, places]
    simp [exponent, strict.whole.nonempty, filled, List.all_eq_true.mpr allDigits]
  rw [TypedNumeral.text]
  cases sign : numeral.sign with
  | plus => exact absurd sign strict.noPlus
  | minus => exact negative
  | absent => exact (isNumeral_unsigned numeral.unsigned_stopsSign).trans negative

theorem allNumeral (numeral : TypedNumeral) :
    ∀ character ∈ numeral.text, Json.isNumeralCharacter character = true := by
  have read := Numeral.ofText?_eq_some_iff.mpr ⟨numeral, rfl, rfl⟩
  intro character inside
  have isCharacter := (Numeral.ofText?_allNumeral read).2 character inside
  simp only [Number.isNumeralCharacter, Bool.or_eq_true, List.contains_eq_mem, List.mem_cons,
    List.not_mem_nil, or_false, decide_eq_true_eq] at isCharacter
  rcases isCharacter with isDigit | rfl | rfl | rfl | rfl | rfl
  · simp [Json.isNumeralCharacter, isDigit]
  all_goals rfl

/-- The numeral is one token. -/
theorem yields (strict : IsStrict numeral) : Yields numeral.text [.numeral numeral.text] := by
  have starts : ∃ first later, numeral.text = first :: later ∧
      (first.isDigit = true ∨ first = '-') := by
    obtain ⟨first, later, cut, isDigit⟩ := strict.whole.exists_cons
    rw [TypedNumeral.text]
    cases sign : numeral.sign with
    | plus => exact absurd sign strict.noPlus
    | minus => exact ⟨_, _, rfl, Or.inr rfl⟩
    | absent => exact ⟨first, later ++ numeral.tail, by rw [cut]; rfl, Or.inl isDigit⟩
  obtain ⟨first, later, cut, starts⟩ := starts
  have characters := allNumeral numeral
  rw [cut] at characters ⊢
  exact yields_numeral starts (List.forall_mem_cons.mp characters).2

end IsStrict

end AssetSearch.Json
