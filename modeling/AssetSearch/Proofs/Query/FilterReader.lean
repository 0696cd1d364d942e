/-
This file reads filters back. The reader knows only the grammar of filters, and it finds in the text
of a filter exactly the terms that were written.
-/

import AssetSearch.Proofs.Number.Numeral
import AssetSearch.Query.Condition
import Mathlib.Data.List.TakeWhile

namespace AssetSearch.Query

/-- A literal stands between quotes, or it is bare and ends before a space. -/
inductive ReadLiteral where
  | quoted (content : String)
  | bare (characters : String)
  deriving DecidableEq, Repr

structure ReadTerm where
  field : String
  comparison : Comparison
  literal : ReadLiteral
  deriving DecidableEq, Repr

def isNotSpace (character : Char) : Bool :=
  character != ' '

/-- A backslash escapes the next character, and the first quote that is not escaped is the end. -/
def readQuoted : List Char → Option (List Char × List Char)
  | [] => none
  | '"' :: rest => some ([], rest)
  | '\\' :: escaped :: rest => (readQuoted rest).map fun read => (escaped :: read.1, read.2)
  | character :: rest => (readQuoted rest).map fun read => (character :: read.1, read.2)

def readBare (characters : List Char) : Option (ReadLiteral × List Char) :=
  let bare := characters.takeWhile isNotSpace
  if bare.isEmpty then none
  else some (.bare (String.ofList bare), characters.dropWhile isNotSpace)

def readLiteral : List Char → Option (ReadLiteral × List Char)
  | '"' :: rest => (readQuoted rest).map fun read => (.quoted (String.ofList read.1), read.2)
  | characters => readBare characters

/-- The field ends before the first space, and one space stands on each side of the mark. -/
def readTerm (characters : List Char) : Option (ReadTerm × List Char) :=
  match characters.dropWhile isNotSpace with
  | ' ' :: mark :: ' ' :: rest =>
      (Comparison.ofMark? mark).bind fun comparison =>
        (readLiteral rest).map fun read =>
          (⟨String.ofList (characters.takeWhile isNotSpace), comparison, read.1⟩, read.2)
  | _ => none

theorem readQuoted_length {characters content rest : List Char}
    (read : readQuoted characters = some (content, rest)) : rest.length ≤ characters.length := by
  induction characters using readQuoted.induct generalizing content rest with
  | case1 => cases read
  | case2 tail =>
      cases read
      exact Nat.le_succ _
  | case3 escaped tail inductionHypothesis =>
      obtain ⟨later, readLater, same⟩ := Option.map_eq_some_iff.mp read
      cases same
      have shorter := inductionHypothesis readLater
      simp only [List.length_cons]
      omega
  | case4 character tail notQuote notEscape inductionHypothesis =>
      rw [readQuoted] at read
      · obtain ⟨later, readLater, same⟩ := Option.map_eq_some_iff.mp read
        cases same
        have shorter := inductionHypothesis readLater
        simp only [List.length_cons]
        omega
      · exact notQuote
      · exact notEscape

theorem readBare_length {characters rest : List Char} {literal : ReadLiteral}
    (read : readBare characters = some (literal, rest)) : rest.length ≤ characters.length := by
  simp only [readBare, Option.ite_none_left_eq_some, Option.some.injEq, Prod.mk.injEq] at read
  obtain ⟨-, -, rfl⟩ := read
  exact (List.dropWhile_suffix _).length_le

theorem readLiteral_length {characters rest : List Char} {literal : ReadLiteral}
    (read : readLiteral characters = some (literal, rest)) : rest.length ≤ characters.length := by
  unfold readLiteral at read
  split at read
  · obtain ⟨later, readLater, same⟩ := Option.map_eq_some_iff.mp read
    cases same
    exact Nat.le_succ_of_le (readQuoted_length readLater)
  · exact readBare_length read

theorem readTerm_length {characters rest : List Char} {term : ReadTerm}
    (read : readTerm characters = some (term, rest)) : rest.length ≤ characters.length := by
  unfold readTerm at read
  split at read
  · next mark later split =>
      obtain ⟨comparison, -, readRest⟩ := Option.bind_eq_some_iff.mp read
      obtain ⟨literal, readLater, same⟩ := Option.map_eq_some_iff.mp readRest
      cases same
      have shorter := readLiteral_length readLater
      have suffix := (List.dropWhile_suffix (l := characters) isNotSpace).length_le
      rw [split] at suffix
      simp only [List.length_cons] at suffix
      omega
  · cases read

/-- A term is followed by the end of the filter, or by a separator and the other terms. -/
def readFilter (characters : List Char) : Option (List ReadTerm) :=
  match _ : readTerm characters with
  | some (term, []) => some [term]
  | some (term, ' ' :: 'A' :: 'N' :: 'D' :: ' ' :: rest) => (readFilter rest).map (term :: ·)
  | _ => none
termination_by characters.length
decreasing_by
  have shorter := readTerm_length ‹_›
  simp only [List.length_cons] at shorter
  omega

theorem readFilter_last {characters : List Char} {term : ReadTerm}
    (read : readTerm characters = some (term, [])) : readFilter characters = some [term] := by
  rw [readFilter]
  split
  · next other readOther =>
      rw [read] at readOther
      cases readOther
      rfl
  · next readOther =>
      rw [read] at readOther
      cases readOther
  · next notLast _ => exact absurd read (notLast term)

theorem readFilter_more {characters rest : List Char} {term : ReadTerm}
    (read : readTerm characters = some (term, ' ' :: 'A' :: 'N' :: 'D' :: ' ' :: rest)) :
    readFilter characters = (readFilter rest).map (term :: ·) := by
  rw [readFilter]
  split
  · next readOther =>
      rw [read] at readOther
      cases readOther
  · next readOther =>
      rw [read] at readOther
      cases readOther
      rfl
  · next notMore => exact absurd read (notMore term rest)

/-- A quoted literal ends where it was closed, whatever the text holds and whatever follows. -/
theorem readQuoted_escape (text rest : List Char) :
    readQuoted (escape text ++ '"' :: rest) = some (text, rest) := by
  induction text with
  | nil => rfl
  | cons character text inductionHypothesis =>
      rw [escape, List.flatMap_cons, List.append_assoc, ← escape]
      by_cases special : character = '\\' ∨ character = '"'
      · have escaped : escapeCharacter character = ['\\', character] := by
          simp [escapeCharacter, special]
        rw [escaped]
        change readQuoted ('\\' :: character :: (escape text ++ '"' :: rest)) = _
        rw [readQuoted, inductionHypothesis]
        rfl
      · have plain : escapeCharacter character = [character] := by
          simp [escapeCharacter, special]
        rw [plain]
        change readQuoted (character :: (escape text ++ '"' :: rest)) = _
        rw [readQuoted, inductionHypothesis]
        · rfl
        · intro quote
          exact special (Or.inr quote)
        · intro escaped later backslash
          exact absurd (Or.inl backslash) special

example : readQuoted "a \\\"b\" AND c".toList = some ("a \"b".toList, " AND c".toList) := by decide

/-- A bare literal ends here. -/
def EndsBare (rest : List Char) : Prop :=
  ∀ character, rest.head? = some character → character = ' '

@[simp] theorem endsBare_nil : EndsBare [] := by
  intro character first
  cases first

@[simp] theorem endsBare_space {rest : List Char} : EndsBare (' ' :: rest) := by
  intro character first
  cases first
  rfl

/-- This text can stand bare in a filter: it does not end early, and it is not taken for a quoted
one. -/
structure IsBare (characters : List Char) : Prop where
  nonempty : characters ≠ []
  noSpace : ∀ character ∈ characters, isNotSpace character = true
  noQuote : '"' ∉ characters

theorem takeWhile_isNotSpace {first rest : List Char}
    (noSpace : ∀ character ∈ first, isNotSpace character = true) (ends : EndsBare rest) :
    (first ++ rest).takeWhile isNotSpace = first := by
  rw [List.takeWhile_append_of_pos noSpace]
  cases rest with
  | nil => simp
  | cons character rest =>
      rw [ends character rfl, List.takeWhile_cons_of_neg (by decide), List.append_nil]

theorem dropWhile_isNotSpace {first rest : List Char}
    (noSpace : ∀ character ∈ first, isNotSpace character = true) (ends : EndsBare rest) :
    (first ++ rest).dropWhile isNotSpace = rest := by
  rw [List.dropWhile_append_of_pos noSpace]
  cases rest with
  | nil => rfl
  | cons character rest => rw [ends character rfl, List.dropWhile_cons_of_neg (by decide)]

theorem readLiteral_bare {characters rest : List Char} (bare : IsBare characters)
    (ends : EndsBare rest) :
    readLiteral (characters ++ rest) = some (.bare (String.ofList characters), rest) := by
  have notQuoted : readLiteral (characters ++ rest) = readBare (characters ++ rest) := by
    cases characters with
    | nil => exact absurd rfl bare.nonempty
    | cons character others =>
        rw [List.cons_append, readLiteral]
        intro later startsQuoted
        rw [(List.cons.inj startsQuoted).1] at bare
        exact bare.noQuote List.mem_cons_self
  rw [notQuoted, readBare, takeWhile_isNotSpace bare.noSpace ends,
    dropWhile_isNotSpace bare.noSpace ends]
  simp [bare.nonempty]

theorem readLiteral_quoted (text rest : List Char) :
    readLiteral (quote text ++ rest) = some (.quoted (String.ofList text), rest) := by
  have opened : quote text ++ rest = '"' :: (escape text ++ '"' :: rest) := by simp [quote]
  rw [opened, readLiteral, readQuoted_escape]
  rfl

/-- The mark of a comparison can be read. -/
@[simp] theorem Comparison.ofMark?_mark (comparison : Comparison) :
    ofMark? comparison.mark = some comparison := by
  cases comparison <;> rfl

/-- This is the literal that a reader finds where the value was written. -/
def FilterValue.reading : FilterValue → ReadLiteral
  | number numeral => .bare numeral
  | timestamp milliseconds => .bare (toString milliseconds)
  | text content => .quoted content

/-- Only the numerals of a value stand as they were typed. -/
def FilterValue.IsReadable : FilterValue → Prop
  | number numeral => IsBare numeral.toList
  | timestamp _ => True
  | text _ => True

theorem isBare_ofNumeral {characters : List Char} (nonempty : characters ≠ [])
    (numeral : Number.AllNumeral characters) : IsBare characters where
  nonempty := nonempty
  noSpace := by
    intro character inside
    rw [isNotSpace, bne_iff_ne]
    intro same
    subst same
    exact absurd (numeral _ inside) (by decide)
  noQuote := by
    intro inside
    exact absurd (numeral _ inside) (by decide)

theorem FilterValue.ofText_readable (characters : List Char) :
    (FilterValue.ofText characters).IsReadable := by
  unfold FilterValue.ofText
  split
  · next finite =>
      have written := Number.isFiniteNumeral_allNumeral finite
      rw [IsReadable, String.toList_ofList]
      exact isBare_ofNumeral written.1 written.2
  · split <;> trivial

/-- The value of a condition is what stands after its mark. -/
theorem Condition.exists_ofText (characters : List Char) :
    ∃ rest, (Condition.ofTrimmed characters).value = .ofText rest := by
  unfold Condition.ofTrimmed
  split
  · next rest => exact ⟨Text.trim rest, rfl⟩
  · next rest => exact ⟨Text.trim rest, rfl⟩
  · exact ⟨characters, rfl⟩

theorem Condition.ofValue_readable (value : String) :
    (Condition.ofValue value).value.IsReadable := by
  obtain ⟨rest, same⟩ := Condition.exists_ofText (Text.trim value.toList)
  rw [Condition.ofValue, same]
  exact FilterValue.ofText_readable rest

theorem readLiteral_literal {value : FilterValue} {rest : List Char} (readable : value.IsReadable)
    (ends : EndsBare rest) :
    readLiteral (value.literal.toList ++ rest) = some (value.reading, rest) := by
  cases value with
  | number numeral =>
      rw [FilterValue.literal, readLiteral_bare readable ends, String.ofList_toList]
      rfl
  | timestamp milliseconds =>
      have written := Number.integer_allNumeral milliseconds
      rw [FilterValue.literal, readLiteral_bare (isBare_ofNumeral written.1 written.2) ends,
        String.ofList_toList]
      rfl
  | text content =>
      rw [FilterValue.literal, quotedLiteral, String.toList_ofList, readLiteral_quoted,
        String.ofList_toList]
      rfl

def FilterTerm.reading (term : FilterTerm) : ReadTerm :=
  ⟨term.field, term.condition.comparison, term.condition.value.reading⟩

/-- A space in the field would end it early. -/
structure FilterTerm.IsReadable (term : FilterTerm) : Prop where
  field : ' ' ∉ term.field.toList
  value : term.condition.value.IsReadable

theorem FilterTerm.text_toList (term : FilterTerm) :
    term.text.toList = term.field.toList ++
      ' ' :: term.condition.comparison.mark :: ' ' :: term.condition.value.literal.toList := by
  simp [text, String.toList_append]

theorem readTerm_text {term : FilterTerm} {rest : List Char} (readable : term.IsReadable)
    (ends : EndsBare rest) :
    readTerm (term.text.toList ++ rest) = some (term.reading, rest) := by
  have noSpace : ∀ character ∈ term.field.toList, isNotSpace character = true := by
    intro character inside
    rw [isNotSpace, bne_iff_ne]
    intro same
    subst same
    exact readable.field inside
  have split : term.text.toList ++ rest = term.field.toList ++ ' ' ::
      term.condition.comparison.mark :: ' ' :: (term.condition.value.literal.toList ++ rest) := by
    rw [term.text_toList, List.append_assoc]
    rfl
  rw [readTerm, split, dropWhile_isNotSpace noSpace endsBare_space,
    takeWhile_isNotSpace noSpace endsBare_space]
  simp only [Comparison.ofMark?_mark, Option.bind_some, readLiteral_literal readable.value ends,
    Option.map_some, String.ofList_toList]
  rfl

/-- The text of a filter has one reading, which has one term for each term that was written. -/
theorem readFilter_conjunction {terms : List FilterTerm} (nonempty : terms ≠ [])
    (readable : ∀ term ∈ terms, term.IsReadable) :
    readFilter (conjunction (terms.map FilterTerm.text)).toList =
      some (terms.map FilterTerm.reading) := by
  induction terms with
  | nil => exact absurd rfl nonempty
  | cons term rest inductionHypothesis =>
      have first := readable term List.mem_cons_self
      cases rest with
      | nil =>
          rw [conjunction, List.map_singleton, String.intercalate_singleton]
          apply readFilter_last
          rw [← readTerm_text first endsBare_nil, List.append_nil]
      | cons next others =>
          have later := inductionHypothesis (List.cons_ne_nil _ _)
            (fun other inside => readable other (List.mem_cons_of_mem _ inside))
          have joined : (conjunction ((term :: next :: others).map FilterTerm.text)).toList =
              term.text.toList ++ (' ' :: 'A' :: 'N' :: 'D' :: ' ' ::
                (conjunction ((next :: others).map FilterTerm.text)).toList) := by
            rw [conjunction, List.map_cons, List.map_cons, String.intercalate_cons_cons,
              String.toList_append, String.toList_append, List.append_assoc]
            rfl
          rw [joined, readFilter_more (readTerm_text first endsBare_space), later]
          rfl

end AssetSearch.Query
