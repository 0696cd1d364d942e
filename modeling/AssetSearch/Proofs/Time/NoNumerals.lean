/-
This file shows that no decimal numeral can be taken for a date or a point in time. All readers of
times look for a hyphen behind the year, and no hyphen follows the digits of a numeral.
-/

import AssetSearch.Proofs.Number.TypedNumerals
import AssetSearch.Proofs.Time.ReadTimes
import AssetSearch.Time.FilterDate

namespace AssetSearch.Time

open AssetSearch.Number
open AssetSearch.Text

namespace Scan

theorem literal_isOk {expected : Char} {characters rest : List Char}
    (isOk : literal expected characters = .ok rest) : characters = expected :: rest := by
  rw [literal.eq_def] at isOk
  split at isOk
  · cases isOk
  · split at isOk
    · next same =>
        cases isOk
        rw [same]
    · cases isOk

section

variable {least value : Nat} {most : Option Nat} {characters rest : List Char}
  (isOk : number least most characters = .ok (value, rest))

include isOk

/-- A number that is read leaves digits behind, or what follows the run of digits. -/
theorem number_leaves : ∀ character ∈ rest.head?,
    character.isDigit = true ∨ character ∈ (characters.dropWhile Char.isDigit).head? := by
  obtain ⟨count, -, -, few, -, dropped⟩ := number_reads isOk
  have parts : rest = (characters.takeWhile Char.isDigit).drop count ++
      characters.dropWhile Char.isDigit := by
    rw [← List.drop_append_of_le_length few, List.takeWhile_append_dropWhile, dropped]
  intro character first
  rw [parts] at first
  cases left : (characters.takeWhile Char.isDigit).drop count with
  | nil =>
      rw [left, List.nil_append] at first
      exact Or.inr first
  | cons digit digits =>
      rw [left] at first
      obtain rfl := Option.some.inj first
      exact Or.inl (takeWhile_isDigit characters digit
        (List.mem_of_mem_drop (left ▸ List.mem_cons_self)))

/-- A number that must not be empty begins with a digit. -/
theorem number_begins (positive : 0 < least) :
    ∀ first ∈ characters.head?, first.isDigit = true := by
  obtain ⟨count, enough, -, few, -, -⟩ := number_reads isOk
  intro first inside
  cases characters with
  | nil => cases inside
  | cons character rest =>
      obtain rfl := Option.some.inj inside
      by_contra notDigit
      rw [List.takeWhile_cons_of_neg notDigit, List.length_nil] at few
      omega

end

end Scan

variable (typed : TypedNumeral)

/-- No hyphen follows the digits that a numeral begins with. -/
theorem number_noHyphen {least value : Nat} {most : Option Nat} {rest later : List Char}
    (isOk : Scan.number least most (typed.whole ++ typed.tail) = .ok (value, rest)) :
    Scan.literal '-' rest ≠ .ok later := by
  intro hyphen
  obtain rfl := Scan.literal_isOk hyphen
  rcases Scan.number_leaves isOk '-' rfl with digit | first
  · cases digit
  · rw [(takeWhile_digits typed.wholeDigits typed.tail_stopsDigits).2] at first
    exact absurd (TypedNumeral.head?_tail first) (by decide)

theorem year_isOk {value : Int} {rest : List Char}
    (isOk : Scan.year typed.text = .ok (value, rest)) :
    ∃ least most size, Scan.number least most (typed.whole ++ typed.tail) = .ok (size, rest) := by
  have stops := typed.unsigned_stopsSign
  rw [TypedNumeral.text] at isOk
  generalize typed.whole ++ typed.tail = unsigned at *
  cases given : typed.sign with
  | plus =>
      rw [given] at isOk
      obtain ⟨⟨size, _⟩, read, same⟩ := bind_isOk isOk
      cases same
      exact ⟨_, _, size, read⟩
  | minus =>
      rw [given] at isOk
      obtain ⟨⟨size, _⟩, read, same⟩ := bind_isOk isOk
      cases same
      exact ⟨_, _, size, read⟩
  | absent =>
      rw [given, Sign.text, List.nil_append, Scan.year.eq_def] at isOk
      split at isOk
      · exact absurd rfl (stops _ rfl).2
      · exact absurd rfl (stops _ rfl).1
      · obtain ⟨⟨size, _⟩, read, same⟩ := bind_isOk isOk
        cases same
        exact ⟨_, _, size, read⟩

/-- A numeral begins with its sign, a digit or the point. -/
theorem trimStart_text : trimStart typed.text = typed.text := by
  apply trimStart_eq_self
  intro character first
  rw [TypedNumeral.text] at first
  cases given : typed.sign with
  | plus =>
      rw [given] at first
      obtain rfl := Option.some.inj first
      decide
  | minus =>
      rw [given] at first
      obtain rfl := Option.some.inj first
      decide
  | absent =>
      rw [given] at first
      rcases TypedNumeral.head?_unsigned first with digit | rfl | rfl | rfl
      · exact isBlank_ofIsDigit digit
      · decide
      · decide
      · decide

theorem readDate_text : ∃ fault, FilterDate.readDate typed.text = .error fault := by
  cases read : FilterDate.readDate typed.text with
  | error fault => exact ⟨fault, rfl⟩
  | ok date =>
      rw [FilterDate.readDate, trimStart_text] at read
      obtain ⟨⟨year, rest⟩, yearRead, read⟩ := bind_isOk read
      obtain ⟨_, -, read⟩ := bind_isOk read
      obtain ⟨later, hyphen, -⟩ := bind_isOk read
      obtain ⟨_, _, _, numberRead⟩ := year_isOk typed yearRead
      exact absurd hyphen (number_noHyphen typed numberRead)

theorem readStrict_text :
    ∃ fault, Rfc3339.readStrict (String.ofList typed.text) = .error fault := by
  cases read : Rfc3339.readStrict (String.ofList typed.text) with
  | error fault => exact ⟨fault, rfl⟩
  | ok instant =>
      rw [Rfc3339.readStrict, String.toList_ofList, Rfc3339.readStrictFields] at read
      obtain ⟨fields, read, -⟩ := bind_isOk read
      obtain ⟨_, -, read⟩ := bind_isOk read
      obtain ⟨⟨year, rest⟩, yearRead, read⟩ := bind_isOk read
      obtain ⟨later, hyphen, -⟩ := bind_isOk read
      -- A sign is no digit, and without one the hyphen is missing.
      rw [TypedNumeral.text] at yearRead
      cases given : typed.sign with
      | plus =>
          rw [given] at yearRead
          cases Scan.number_begins yearRead (by decide) '+' rfl
      | minus =>
          rw [given] at yearRead
          cases Scan.number_begins yearRead (by decide) '-' rfl
      | absent =>
          rw [given] at yearRead
          exact absurd hyphen (number_noHyphen typed yearRead)

/-- No numeral is a point in time, however it is typed. -/
theorem milliseconds?_typedNumeral : FilterDate.milliseconds? typed.text = none := by
  obtain ⟨dateFault, noDate⟩ := readDate_text typed
  obtain ⟨strictFault, notStrict⟩ := readStrict_text typed
  rw [FilterDate.milliseconds?, FilterDate.instant?, notStrict, FilterDate.readSecondsLocal,
    FilterDate.readMinutesLocal, FilterDate.readMinutes, FilterDate.readDay, noDate]
  rfl

end AssetSearch.Time
