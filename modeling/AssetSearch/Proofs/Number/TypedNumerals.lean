/-
This file shows that a text is read as a decimal numeral exactly if it is typed as one: an optional
sign, digits with an optional point among them, and an optional exponent.
-/

import AssetSearch.Proofs.Number.Numeral
import Mathlib.Data.List.TakeWhile

namespace AssetSearch.Number

/-- A sign may be left out. -/
inductive Sign where
  | absent
  | plus
  | minus
  deriving DecidableEq, Repr

namespace Sign

def text : Sign → List Char
  | absent => []
  | plus => ['+']
  | minus => ['-']

def isNegative : Sign → Bool
  | minus => true
  | _ => false

/-- A number with the sign is so many times its size. -/
def factor : Sign → Int
  | minus => -1
  | _ => 1

end Sign

/-- This is the exponent of a numeral as it may be typed. -/
structure ExponentPart where
  mark : Char
  sign : Sign
  digits : List Char
  isMark : mark = 'e' ∨ mark = 'E'
  filled : digits ≠ []
  allDigits : ∀ digit ∈ digits, digit.isDigit = true

def ExponentPart.text (part : ExponentPart) : List Char :=
  part.mark :: (part.sign.text ++ part.digits)

/-- This is a numeral as it may be typed. There may be no digits behind the point, or none before
it, but not both. -/
structure TypedNumeral where
  sign : Sign
  whole : List Char
  fraction? : Option (List Char)
  exponent? : Option ExponentPart
  wholeDigits : ∀ digit ∈ whole, digit.isDigit = true
  fractionDigits : ∀ digit ∈ fraction?.getD [], digit.isDigit = true
  filled : whole ≠ [] ∨ fraction?.getD [] ≠ []

def fractionText : Option (List Char) → List Char
  | none => []
  | some digits => '.' :: digits

def exponentText : Option ExponentPart → List Char
  | none => []
  | some part => part.text

/-- The numeral is read with its exponent cut off above a bound. -/
def exponentReading : Option ExponentPart → Int
  | none => 0
  | some part => part.sign.factor * ofExponentDigits part.digits

namespace TypedNumeral

def places (numeral : TypedNumeral) : List Char := numeral.fraction?.getD []

/-- These characters follow the digits before the point. -/
def tail (numeral : TypedNumeral) : List Char :=
  fractionText numeral.fraction? ++ exponentText numeral.exponent?

def text (numeral : TypedNumeral) : List Char :=
  numeral.sign.text ++ (numeral.whole ++ numeral.tail)

def reading (numeral : TypedNumeral) : Numeral :=
  ⟨numeral.sign.isNegative, ofDigits (numeral.whole ++ numeral.places),
    exponentReading numeral.exponent? - numeral.places.length⟩

end TypedNumeral

/-- No digit follows. -/
def StopsDigits (rest : List Char) : Prop :=
  ∀ character ∈ rest.head?, character.isDigit = false

theorem takeWhile_digits {digits rest : List Char}
    (allDigits : ∀ digit ∈ digits, digit.isDigit = true) (stops : StopsDigits rest) :
    (digits ++ rest).takeWhile Char.isDigit = digits ∧
      (digits ++ rest).dropWhile Char.isDigit = rest := by
  rw [List.takeWhile_append_of_pos allDigits, List.dropWhile_append_of_pos allDigits]
  cases rest with
  | nil => exact ⟨List.append_nil _, rfl⟩
  | cons character rest =>
      have notDigit : ¬ character.isDigit = true := Bool.not_eq_true _ ▸ stops character rfl
      rw [List.takeWhile_cons_of_neg notDigit, List.dropWhile_cons_of_neg notDigit]
      exact ⟨List.append_nil _, rfl⟩

theorem takeWhile_isDigit (characters : List Char) :
    ∀ digit ∈ characters.takeWhile Char.isDigit, digit.isDigit = true :=
  fun _ inside => List.mem_takeWhile_imp inside

/-- A sign is followed by something that is no sign. -/
def StopsSign (rest : List Char) : Prop :=
  ∀ character ∈ rest.head?, character ≠ '+' ∧ character ≠ '-'

theorem splitSign_text (sign : Sign) {rest : List Char} (stops : StopsSign rest) :
    splitSign (sign.text ++ rest) = (sign.isNegative, rest) := by
  cases sign with
  | plus => rfl
  | minus => rfl
  | absent =>
      cases rest with
      | nil => rfl
      | cons character rest =>
          obtain ⟨notPlus, notMinus⟩ := stops character rfl
          simp [Sign.text, Sign.isNegative, splitSign, notPlus, notMinus]

theorem exists_sign (characters : List Char) :
    ∃ (sign : Sign) (rest : List Char),
      splitSign characters = (sign.isNegative, rest) ∧ sign.text ++ rest = characters := by
  rw [splitSign.eq_def]
  split
  · exact ⟨.minus, _, rfl, rfl⟩
  · exact ⟨.plus, _, rfl, rfl⟩
  · exact ⟨.absent, _, rfl, rfl⟩

theorem ne_sign_ofIsDigit {character : Char} (digit : character.isDigit = true) :
    character ≠ '+' ∧ character ≠ '-' := by
  constructor
  · rintro rfl
    cases digit
  · rintro rfl
    cases digit

theorem stopsSign_digits {digits : List Char}
    (allDigits : ∀ digit ∈ digits, digit.isDigit = true) : StopsSign digits :=
  fun character first => ne_sign_ofIsDigit (allDigits character (List.mem_of_head? first))

theorem factor_mul (sign : Sign) (size : Nat) :
    (if sign.isNegative = true then -(size : Int) else size) = sign.factor * size := by
  cases sign <;> simp [Sign.isNegative, Sign.factor]

theorem readExponent?_exponentText (part? : Option ExponentPart) :
    readExponent? (exponentText part?) = some (exponentReading part?) := by
  cases part? with
  | none => rfl
  | some part =>
      have sign := splitSign_text part.sign (stopsSign_digits part.allDigits)
      have mark : (part.mark = 'e' || part.mark = 'E') = true := by
        simpa using part.isMark
      have digits : (part.digits.isEmpty || !part.digits.all Char.isDigit) = false := by
        simpa [part.filled] using part.allDigits
      rw [exponentText, ExponentPart.text, readExponent?, if_pos mark, sign]
      simp only [digits, Bool.false_eq_true, if_false, exponentReading, factor_mul]

/-- Any exponent that can be read is typed as one. -/
theorem exists_exponentPart {characters : List Char} {exponent : Int}
    (read : readExponent? characters = some exponent) :
    ∃ part?, exponentText part? = characters ∧ exponentReading part? = exponent := by
  cases characters with
  | nil => exact ⟨none, rfl, Option.some.inj read⟩
  | cons mark rest =>
      obtain ⟨sign, digits, cut, rfl⟩ := exists_sign rest
      rw [readExponent?, cut] at read
      simp only [factor_mul, Option.ite_none_right_eq_some, Option.ite_none_left_eq_some,
        Option.some.injEq, Bool.or_eq_true, decide_eq_true_eq] at read
      obtain ⟨isMark, accepted, rfl⟩ := read
      simp only [not_or, List.isEmpty_iff, Bool.not_eq_true', Bool.not_eq_false,
        List.all_eq_true] at accepted
      exact ⟨some ⟨mark, sign, digits, isMark, accepted.1, accepted.2⟩, rfl, rfl⟩

/-- An exponent begins with its mark. -/
theorem head?_exponentText {part? : Option ExponentPart} {character : Char}
    (first : character ∈ (exponentText part?).head?) : character = 'e' ∨ character = 'E' := by
  cases part? with
  | none => cases first
  | some part =>
      obtain rfl := Option.some.inj first
      exact part.isMark

theorem exponentText_stopsDigits (part? : Option ExponentPart) :
    StopsDigits (exponentText part?) := by
  intro character first
  rcases head?_exponentText first with rfl | rfl <;> rfl

theorem exists_fraction (characters : List Char) :
    ∃ (fraction? : Option (List Char)) (rest : List Char),
      splitFraction characters = (fraction?.getD [], rest) ∧
      fractionText fraction? ++ rest = characters ∧
      ∀ digit ∈ fraction?.getD [], digit.isDigit = true := by
  rw [splitFraction.eq_def]
  split
  · next rest =>
      exact ⟨some (rest.takeWhile Char.isDigit), _, rfl,
        congrArg _ List.takeWhile_append_dropWhile, takeWhile_isDigit rest⟩
  · exact ⟨none, _, rfl, rfl, by simp⟩

namespace TypedNumeral

/-- Behind the digits before the point stand the point, the mark of the exponent or nothing. -/
theorem head?_tail {numeral : TypedNumeral} {character : Char}
    (first : character ∈ numeral.tail.head?) :
    character = '.' ∨ character = 'e' ∨ character = 'E' := by
  cases given : numeral.fraction? with
  | none =>
      rw [tail, given] at first
      exact Or.inr (head?_exponentText first)
  | some digits =>
      rw [tail, given] at first
      exact Or.inl (Option.some.inj first).symm

theorem tail_stopsDigits (numeral : TypedNumeral) : StopsDigits numeral.tail := by
  intro character first
  rcases head?_tail first with rfl | rfl | rfl <;> rfl

/-- Behind the sign stands a digit, or what may follow the digits before the point. -/
theorem head?_unsigned {numeral : TypedNumeral} {character : Char}
    (first : character ∈ (numeral.whole ++ numeral.tail).head?) :
    character.isDigit = true ∨ character = '.' ∨ character = 'e' ∨ character = 'E' := by
  cases given : numeral.whole with
  | nil =>
      rw [given, List.nil_append] at first
      exact Or.inr (head?_tail first)
  | cons digit digits =>
      rw [given] at first
      obtain rfl := Option.some.inj first
      exact Or.inl (numeral.wholeDigits digit (given ▸ List.mem_cons_self))

theorem unsigned_stopsSign (numeral : TypedNumeral) :
    StopsSign (numeral.whole ++ numeral.tail) := by
  intro character first
  rcases head?_unsigned first with digit | rfl | rfl | rfl
  · exact ne_sign_ofIsDigit digit
  · decide
  · decide
  · decide

theorem splitFraction_tail (numeral : TypedNumeral) :
    splitFraction numeral.tail = (numeral.places, exponentText numeral.exponent?) := by
  have stops := exponentText_stopsDigits numeral.exponent?
  rw [tail, places]
  cases given : numeral.fraction? with
  | some digits =>
      have allDigits := numeral.fractionDigits
      rw [given] at allDigits
      obtain ⟨taken, dropped⟩ := takeWhile_digits allDigits stops
      exact Prod.ext taken dropped
  | none =>
      rw [fractionText, List.nil_append, splitFraction.eq_def]
      split
      · next rest same =>
          have point : '.' ∈ (exponentText numeral.exponent?).head? := same ▸ rfl
          exact absurd (head?_exponentText point) (by decide)
      · rfl

end TypedNumeral

/-- The reader takes the typed numerals apart, and it takes nothing else. -/
theorem Numeral.ofText?_eq_some_iff {characters : List Char} {numeral : Numeral} :
    Numeral.ofText? characters = some numeral ↔
      ∃ typed : TypedNumeral, typed.text = characters ∧ typed.reading = numeral := by
  constructor
  · intro read
    obtain ⟨sign, unsigned, cut, rfl⟩ := exists_sign characters
    obtain ⟨fraction?, rest, divided, spelled, allDigits⟩ :=
      exists_fraction (unsigned.dropWhile Char.isDigit)
    rw [Numeral.ofText?, cut] at read
    simp only [divided, Option.ite_none_left_eq_some, Option.map_eq_some_iff] at read
    obtain ⟨filled, exponent, readExponent, rfl⟩ := read
    obtain ⟨part?, rfl, rfl⟩ := exists_exponentPart readExponent
    refine ⟨⟨sign, unsigned.takeWhile Char.isDigit, fraction?, part?, takeWhile_isDigit _,
      allDigits, ?_⟩, ?_, rfl⟩
    · rwa [Bool.and_eq_true, List.isEmpty_iff, List.isEmpty_iff, not_and_or] at filled
    · rw [TypedNumeral.text, TypedNumeral.tail, spelled, List.takeWhile_append_dropWhile]
  · rintro ⟨typed, rfl, rfl⟩
    obtain ⟨taken, dropped⟩ := takeWhile_digits typed.wholeDigits typed.tail_stopsDigits
    have filled : ¬ (typed.whole.isEmpty && typed.places.isEmpty) = true := by
      rw [Bool.and_eq_true, List.isEmpty_iff, List.isEmpty_iff, not_and_or]
      exact typed.filled
    rw [Numeral.ofText?, TypedNumeral.text, splitSign_text typed.sign typed.unsigned_stopsSign]
    simp only [taken, dropped, typed.splitFraction_tail, if_neg filled, readExponent?_exponentText]
    rfl

/-- An integer is typed with its digits, behind a minus if it is negative. -/
def TypedNumeral.ofInteger (value : Int) : TypedNumeral where
  sign := if value < 0 then .minus else .absent
  whole := Nat.toDigits 10 value.natAbs
  fraction? := none
  exponent? := none
  wholeDigits := fun _ inside => Nat.isDigit_of_mem_toDigits (by decide) (by decide) inside
  fractionDigits := fun _ inside => absurd inside List.not_mem_nil
  filled := Or.inl Nat.toDigits_ne_nil

theorem TypedNumeral.ofInteger_text (value : Int) :
    (ofInteger value).text = (toString value).toList := by
  have bare : (ofInteger value).text =
      (if value < 0 then Sign.minus else .absent).text ++ Nat.toDigits 10 value.natAbs :=
    congrArg _ (List.append_nil _)
  rw [bare, Int.toString_eq_repr, Int.repr_eq_if]
  by_cases negative : value < 0
  · have magnitude : (-value).toNat = value.natAbs := by omega
    rw [if_pos negative, if_neg (Int.not_le.mpr negative), String.toList_append, magnitude,
      Nat.toList_repr]
    rfl
  · have magnitude : value.toNat = value.natAbs := by omega
    rw [if_neg negative, if_pos (Int.not_lt.mp negative), magnitude, Nat.toList_repr]
    rfl

end AssetSearch.Number
