/-
This file states the grammar of the data format JSON and shows that every text of it is read as the
document that it spells, however its characters are escaped and wherever it has blanks.
-/

import AssetSearch.Proofs.Json.Containers
import AssetSearch.Proofs.Json.Numerals

namespace AssetSearch.Json

open AssetSearch.Number

/-- A character of a text stands for itself, or is escaped by a letter or in hex. -/
inductive SpellsPart : List Char → TextPart → Prop
  | bare {character : Char} (visible : 32 ≤ character.toNat) (notQuote : character ≠ '"')
      (notBackslash : character ≠ '\\') : SpellsPart [character] (.character character)
  | escaped {letter character : Char} (escape : escapedCharacter? letter = some character) :
      SpellsPart ['\\', letter] (.character character)
  | hex {first second third fourth : Char} {a b c d : Nat} (isFirst : hexValue? first = some a)
      (isSecond : hexValue? second = some b) (isThird : hexValue? third = some c)
      (isFourth : hexValue? fourth = some d) :
      SpellsPart ['\\', 'u', first, second, third, fourth]
        (.unit (16 * (16 * (16 * a + b) + c) + d))

/-- A text stands in quotes, and has no content if its units do not form characters. -/
inductive SpellsText : List Char → Option String → Prop
  | quoted {spellings : List (List Char)} {parts : List TextPart}
      (spelled : List.Forall₂ SpellsPart spellings parts) :
      SpellsText ('"' :: (spellings.flatten ++ ['"'])) ((joinParts parts).map String.ofList)

def AllSpaces (characters : List Char) : Prop :=
  ∀ character ∈ characters, isSpace character = true

/-- A member of an object has a name between spaces and a value. -/
structure Member where
  before : List Char
  name : List Char
  after : List Char
  content : Option String
  value : List Char
  document : Document

namespace Member

structure IsNamed (member : Member) : Prop where
  before : AllSpaces member.before
  name : SpellsText member.name member.content
  after : AllSpaces member.after

def text (member : Member) : List Char :=
  member.before ++ (member.name ++ (member.after ++ ':' :: member.value))

def entry (member : Member) : Option String × Document := (member.content, member.document)

end Member

/-- A text spells a document, with spaces around all of its tokens. -/
inductive Spells : List Char → Document → Prop
  | null : Spells "null".toList .null
  | isTrue : Spells "true".toList (.truth true)
  | isFalse : Spells "false".toList (.truth false)
  | number {numeral : TypedNumeral} (strict : IsStrict numeral) :
      Spells numeral.text (.number numeral.text)
  | text {characters : List Char} {content : Option String}
      (spells : SpellsText characters content) : Spells characters (.text content)
  | list (items : List (List Char × Document)) {spaces : List Char}
      (spell : ∀ item ∈ items, Spells item.1 item.2) (finish : AllSpaces spaces) :
      Spells ('[' :: ([','].intercalate (items.map Prod.fst) ++ (spaces ++ [']'])))
        (.list (items.map Prod.snd))
  | object (members : List Member) {spaces : List Char}
      (named : ∀ member ∈ members, member.IsNamed)
      (spell : ∀ member ∈ members, Spells member.value member.document)
      (finish : AllSpaces spaces) :
      Spells ('\x7b' :: ([','].intercalate (members.map Member.text) ++ (spaces ++ ['\x7d'])))
        (.object (members.map Member.entry))
  | padded {before characters after : List Char} {document : Document} (start : AllSpaces before)
      (spells : Spells characters document) (finish : AllSpaces after) :
      Spells (before ++ (characters ++ after)) document

/-- A part is read wherever it stands in a text. -/
theorem SpellsPart.run {characters : List Char} {part : TextPart}
    (spells : SpellsPart characters part) (before : List TextPart) (tokens : List Token)
    (rest : List Char) :
    Lexer.run ⟨.inText before, tokens⟩ (characters ++ rest) =
      Lexer.run ⟨.inText (part :: before), tokens⟩ rest := by
  cases spells with
  | @bare character visible notQuote notBackslash =>
      have notControl : ¬ character.toNat < 32 := Nat.not_lt.mpr visible
      rw [List.singleton_append, Lexer.run, Lexer.step]
      simp only [Lexer.continueText, notQuote, notBackslash, notControl, if_false]
  | @escaped letter character escape =>
      have notHex : letter ≠ 'u' := by
        rintro rfl
        cases escape
      have step : Lexer.step ⟨.afterBackslash before, tokens⟩ letter =
          some ⟨.inText (.character character :: before), tokens⟩ := by
        rw [Lexer.step]
        simp only [if_neg notHex, escape, Option.map_some]
      change Lexer.run ⟨.afterBackslash before, tokens⟩ (letter :: rest) = _
      rw [Lexer.run, step]
  | hex isFirst isSecond isThird isFourth =>
      change Lexer.run ⟨.inHex before 0 0, tokens⟩ (_ :: _ :: _ :: _ :: rest) = _
      rw [run_inHex isFirst, if_neg (by decide), run_inHex isSecond, if_neg (by decide),
        run_inHex isThird, if_neg (by decide), run_inHex isFourth, if_pos rfl, Nat.mul_zero,
        Nat.zero_add]

theorem SpellsText.yieldsAlways {characters : List Char} {content : Option String}
    (spells : SpellsText characters content) : YieldsAlways characters [.text content] := by
  obtain ⟨spelled⟩ := spells
  apply yieldsAlways_text
  induction spelled with
  | nil => exact fun _ _ _ => rfl
  | cons part _ inductionHypothesis =>
      intro before tokens rest
      rw [List.flatten_cons, List.append_assoc, part.run, inductionHypothesis, List.reverse_cons,
        List.append_assoc]
      rfl

namespace Container.IsDelimited

variable {Part : Type} {container : Container Part} {first last : Char}

/-- The parts of a container are cut one after the other, with a comma between two of them. -/
theorem yields_parts (delimited : container.IsDelimited first last) {texts : List (List Char)}
    {tokenLists : List (List Token)} (yields : List.Forall₂ Yields texts tokenLists)
    {spaces : List Char} (finish : AllSpaces spaces) :
    Yields (first :: ([','].intercalate texts ++ (spaces ++ [last])))
      (container.openMark :: (separated tokenLists ++ [container.closeMark])) := by
  have closes := (yieldsAlways_spaces finish).append delimited.closes
  have ends := (endsToken_spaces finish).append delimited.ends
  cases yields with
  | nil => exact (delimited.opens.append closes).yields
  | cons part others =>
      obtain ⟨later, laterEnds⟩ := yields_later others
      rw [intercalate_cons]
      exact delimited.opens.append_yields
        ((part.append laterEnds later).append ends closes.yields)

end Container.IsDelimited

theorem Member.IsNamed.yields {member : Member} (named : member.IsNamed) {tokens : List Token}
    (value : Yields member.value tokens) :
    Yields member.text (.text member.content :: .colon :: tokens) := by
  have colon : YieldsAlways [':'] [.colon] :=
    yieldsAlways_punctuation rfl rfl (by decide) rfl (by decide) rfl
  have after := (yieldsAlways_spaces named.after).append_yields (colon.append_yields value)
  exact (yieldsAlways_spaces named.before).append_yields
    (named.name.yieldsAlways.append_yields after)

/-- The tokens of a text of the grammar are read as the document that it spells. -/
theorem Spells.reads {characters : List Char} {document : Document}
    (spells : Spells characters document) :
    ∃ tokens, Yields characters tokens ∧ Reads tokens document := by
  induction spells with
  | null => exact ⟨_, yields_word 'n' "ull".toList (fun _ => rfl) rfl, reads_scalar rfl⟩
  | isTrue => exact ⟨_, yields_word 't' "rue".toList (fun _ => rfl) rfl, reads_scalar rfl⟩
  | isFalse => exact ⟨_, yields_word 'f' "alse".toList (fun _ => rfl) rfl, reads_scalar rfl⟩
  | number strict => exact ⟨_, strict.yields, reads_scalar (if_pos strict.isNumeral)⟩
  | text spells => exact ⟨_, spells.yieldsAlways.yields, reads_scalar rfl⟩
  | list items _ finish inductionHypothesis =>
      have parts : List.Forall₂ (fun text part => ∃ tokens, Yields text tokens ∧
          listContainer.ReadsPart tokens part) (items.map Prod.fst) (items.map Prod.snd) := by
        rw [List.forall₂_map_left_iff, List.forall₂_map_right_iff, List.forall₂_same]
        intro item inside
        obtain ⟨tokens, yields, reads⟩ := inductionHypothesis item inside
        exact ⟨tokens, yields, reads.readsItem⟩
      obtain ⟨tokenLists, yields, reads⟩ := exists_tokenLists parts
      exact ⟨_, list_isDelimited.yields_parts yields finish, Container.list_isLawful.reads reads⟩
  | object members named _ finish inductionHypothesis =>
      have parts : List.Forall₂ (fun text part => ∃ tokens, Yields text tokens ∧
          objectContainer.ReadsPart tokens part)
          (members.map Member.text) (members.map Member.entry) := by
        rw [List.forall₂_map_left_iff, List.forall₂_map_right_iff, List.forall₂_same]
        intro member inside
        obtain ⟨tokens, yields, reads⟩ := inductionHypothesis member inside
        exact ⟨_, (named member inside).yields yields, reads.readsMember member.content⟩
      obtain ⟨tokenLists, yields, reads⟩ := exists_tokenLists parts
      exact ⟨_, object_isDelimited.yields_parts yields finish,
        Container.object_isLawful.reads reads⟩
  | padded start _ finish inductionHypothesis =>
      obtain ⟨tokens, yields, reads⟩ := inductionHypothesis
      have padded := (yieldsAlways_spaces start).append_yields
        (yields.append (endsToken_spaces finish) (yieldsAlways_spaces finish).yields)
      rw [List.nil_append, List.append_nil] at padded
      exact ⟨tokens, padded, reads⟩

theorem Spells.ofText?_eq {text : String} {document : Document}
    (spells : Spells text.toList document) : Document.ofText? text = some document := by
  obtain ⟨tokens, yields, reads⟩ := spells.reads
  rw [Document.ofText?, yields.tokens?_eq, Option.bind_some, reads.ofTokens?_eq]

end AssetSearch.Json
