/-
This file shows what decimal digits stand for, and which characters numerals are written with,
whether they were typed or count milliseconds.
-/

import AssetSearch.Number.Numeral
import Mathlib.Algebra.Group.Nat.Defs
import Mathlib.Data.List.TakeWhile

namespace AssetSearch.Number

/-- The decimal digits have ten code points in a row. -/
theorem isDigit_iff {character : Char} :
    character.isDigit = true ↔ 48 ≤ character.toNat ∧ character.toNat ≤ 57 := by
  simp only [Char.isDigit, Bool.and_eq_true, decide_eq_true_eq, UInt32.le_iff_toNat_le]
  exact Iff.rfl

theorem digitValue_lt {digit : Char} (isDigit : digit.isDigit = true) : digitValue digit < 10 := by
  have bounds := isDigit_iff.mp isDigit
  have zero : '0'.toNat = 48 := rfl
  rw [digitValue]
  omega

theorem ofDigits_eq_ofDigitChars (characters : List Char) :
    ofDigits characters = Nat.ofDigitChars 10 characters 0 := rfl

theorem ofDigits_cons (digit : Char) (digits : List Char) :
    ofDigits (digit :: digits) = digitValue digit * 10 ^ digits.length + ofDigits digits := by
  have first : 10 * 0 + (digit.toNat - '0'.toNat) = digitValue digit := by
    rw [Nat.mul_zero, Nat.zero_add, digitValue]
  rw [ofDigits_eq_ofDigitChars, Nat.ofDigitChars_cons, Nat.ofDigitChars_eq_ofDigitChars_zero,
    first, Nat.mul_comm, ofDigits_eq_ofDigitChars]

/-- A number is smaller than the power of ten with as many zeros as it has digits. -/
theorem ofDigits_lt {digits : List Char} (allDigits : ∀ digit ∈ digits, digit.isDigit = true) :
    ofDigits digits < 10 ^ digits.length := by
  have general : ∀ start, digits.foldl (fun value digit => 10 * value + digitValue digit) start <
      (start + 1) * 10 ^ digits.length := by
    induction digits with
    | nil => simp
    | cons digit later inductionHypothesis =>
        intro start
        have small := digitValue_lt (allDigits digit List.mem_cons_self)
        have rest := inductionHypothesis
          (fun other inside => allDigits other (List.mem_cons_of_mem digit inside))
          (10 * start + digitValue digit)
        refine Nat.lt_of_lt_of_le rest ?_
        rw [List.length_cons, Nat.pow_succ']
        calc (10 * start + digitValue digit + 1) * 10 ^ later.length
            ≤ (10 * (start + 1)) * 10 ^ later.length :=
              Nat.mul_le_mul_right _ (by omega)
          _ = (start + 1) * (10 * 10 ^ later.length) := by
              rw [Nat.mul_comm 10 (start + 1), Nat.mul_assoc]
  have bound := general 0
  rw [Nat.zero_add, Nat.one_mul] at bound
  exact bound

/-- The signs, the point and the letter of the exponent stand beside the digits. -/
def isNumeralCharacter (character : Char) : Bool :=
  character.isDigit || ['+', '-', '.', 'e', 'E'].contains character

theorem dropPlus_cases (text : List Char) : text = dropPlus text ∨ text = '+' :: dropPlus text := by
  unfold dropPlus
  split
  · exact Or.inr rfl
  · exact Or.inl rfl

/-- Digits stand behind a plus, or alone. -/
theorem dropPlus_eq {text digits : List Char} (written : text = digits ∨ text = '+' :: digits)
    (decimal : ∀ digit ∈ digits, digit.isDigit = true) : dropPlus text = digits := by
  rcases written with rfl | rfl
  · unfold dropPlus
    split
    · cases decimal '+' List.mem_cons_self
    · rfl
  · rfl

/-- A number is read from its digits alone. -/
theorem ofDecimal?_eq_some_iff {largest value : Nat} {text : String} :
    ofDecimal? largest text = some value ↔
      (∃ digits, (text.toList = digits ∨ text.toList = '+' :: digits) ∧ digits ≠ [] ∧
        (∀ digit ∈ digits, digit.isDigit = true) ∧ ofDigits digits = value) ∧
      ¬ largest < value := by
  have read (digits : List Char) : (digits.isEmpty || !digits.all Char.isDigit) = false ↔
      digits ≠ [] ∧ ∀ digit ∈ digits, digit.isDigit = true := by
    rw [Bool.or_eq_false_iff, List.isEmpty_eq_false_iff, Bool.not_eq_false', List.all_eq_true]
  constructor
  · intro isSome
    rw [ofDecimal?] at isSome
    split at isSome
    · cases isSome
    · next good =>
        obtain ⟨nonempty, decimal⟩ := (read _).mp (Bool.eq_false_iff.mpr good)
        dsimp only at isSome
        split at isSome
        · cases isSome
        · next fits =>
            obtain rfl := Option.some.inj isSome
            exact ⟨⟨_, dropPlus_cases _, nonempty, decimal, rfl⟩, fits⟩
  · rintro ⟨⟨digits, written, nonempty, decimal, rfl⟩, fits⟩
    have good := (read digits).mpr ⟨nonempty, decimal⟩
    rw [ofDecimal?, dropPlus_eq written decimal, good]
    simp only [Bool.false_eq_true, if_false, fits]

theorem isNumeralCharacter_ofIsDigit {character : Char} (digit : character.isDigit = true) :
    isNumeralCharacter character = true := by
  rw [isNumeralCharacter, digit, Bool.true_or]

/-- This text has only characters of numerals. -/
def AllNumeral (characters : List Char) : Prop :=
  ∀ character ∈ characters, isNumeralCharacter character = true

@[simp] theorem allNumeral_nil : AllNumeral [] := by
  intro character inside
  cases inside

@[simp] theorem allNumeral_cons {character : Char} {rest : List Char} :
    AllNumeral (character :: rest) ↔ isNumeralCharacter character = true ∧ AllNumeral rest := by
  simp [AllNumeral]

theorem allNumeral_append {first second : List Char} :
    AllNumeral (first ++ second) ↔ AllNumeral first ∧ AllNumeral second := by
  simp only [AllNumeral, List.mem_append, or_imp, forall_and]

theorem allNumeral_ofDigits {characters : List Char}
    (digits : ∀ character ∈ characters, character.isDigit = true) : AllNumeral characters := by
  intro character inside
  exact isNumeralCharacter_ofIsDigit (digits character inside)

theorem allNumeral_takeWhile (characters : List Char) :
    AllNumeral (characters.takeWhile Char.isDigit) := by
  apply allNumeral_ofDigits
  intro character inside
  exact List.mem_takeWhile_imp inside

/-- The digits at the start do not decide which other characters follow. -/
theorem allNumeral_ofDropWhile {characters : List Char}
    (later : AllNumeral (characters.dropWhile Char.isDigit)) : AllNumeral characters := by
  rw [← List.takeWhile_append_dropWhile (p := Char.isDigit) (l := characters), allNumeral_append]
  exact ⟨allNumeral_takeWhile characters, later⟩

theorem allNumeral_ofSplitSign {characters : List Char}
    (unsigned : AllNumeral (splitSign characters).2) : AllNumeral characters := by
  unfold splitSign at unsigned
  split at unsigned
  · exact allNumeral_cons.mpr ⟨by decide, unsigned⟩
  · exact allNumeral_cons.mpr ⟨by decide, unsigned⟩
  · exact unsigned

theorem allNumeral_ofSplitFraction {characters : List Char}
    (exponentPart : AllNumeral (splitFraction characters).2) : AllNumeral characters := by
  unfold splitFraction at exponentPart
  split at exponentPart
  · exact allNumeral_cons.mpr ⟨by decide, allNumeral_ofDropWhile exponentPart⟩
  · exact exponentPart

theorem readExponent?_allNumeral {characters : List Char} {exponent : Int}
    (read : readExponent? characters = some exponent) : AllNumeral characters := by
  cases characters with
  | nil => exact allNumeral_nil
  | cons mark rest =>
      simp only [readExponent?, Bool.or_eq_true, decide_eq_true_eq,
        Option.ite_none_right_eq_some, Option.ite_none_left_eq_some] at read
      obtain ⟨letter, accepted, -⟩ := read
      have isLetter : isNumeralCharacter mark = true := by
        rcases letter with rfl | rfl <;> decide
      have digits : (splitSign rest).2.all Char.isDigit = true := by
        by_contra other
        exact accepted (Or.inr (by simp only [other, Bool.not_false]))
      rw [allNumeral_cons]
      exact ⟨isLetter, allNumeral_ofSplitSign (allNumeral_ofDigits (List.all_eq_true.mp digits))⟩

/-- A numeral that can be read is not empty and has no other characters. -/
theorem Numeral.ofText?_allNumeral {characters : List Char} {numeral : Numeral}
    (read : Numeral.ofText? characters = some numeral) :
    characters ≠ [] ∧ AllNumeral characters := by
  constructor
  · intro same
    subst same
    cases read
  · rw [Numeral.ofText?] at read
    simp only at read
    split at read
    · cases read
    · obtain ⟨exponent, readExponent, -⟩ := Option.map_eq_some_iff.mp read
      have exponentPart := readExponent?_allNumeral readExponent
      exact allNumeral_ofSplitSign
        (allNumeral_ofDropWhile (allNumeral_ofSplitFraction exponentPart))

theorem isFiniteNumeral_allNumeral {characters : List Char}
    (finite : isFiniteNumeral characters = true) : characters ≠ [] ∧ AllNumeral characters := by
  cases read : Numeral.ofText? characters with
  | none => simp [isFiniteNumeral, read] at finite
  | some numeral => exact Numeral.ofText?_allNumeral read

theorem natural_allNumeral (value : Nat) :
    value.repr.toList ≠ [] ∧ AllNumeral value.repr.toList := by
  rw [Nat.toList_repr]
  constructor
  · exact Nat.toDigits_ne_nil
  · apply allNumeral_ofDigits
    intro character inside
    exact Nat.isDigit_of_mem_toDigits (by decide) (by decide) inside

/-- An integer in decimal notation has digits, after a minus if it is negative. -/
theorem integer_allNumeral (value : Int) :
    (toString value).toList ≠ [] ∧ AllNumeral (toString value).toList := by
  rw [Int.toString_eq_repr, Int.repr_eq_if]
  by_cases natural : 0 ≤ value
  · rw [if_pos natural]
    exact natural_allNumeral value.toNat
  · rw [if_neg natural, String.toList_append]
    have minus : "-".toList = ['-'] := rfl
    rw [minus]
    exact ⟨List.cons_ne_nil _ _, allNumeral_cons.mpr ⟨by decide, (natural_allNumeral _).2⟩⟩

end AssetSearch.Number
