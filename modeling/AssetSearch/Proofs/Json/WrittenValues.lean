/-
This file shows that a written value is a text of the grammar, however it is laid out on lines, and
that it is read as a document with the same parts.
-/

import AssetSearch.Json.Value
import AssetSearch.Proofs.Json.Grammar

namespace AssetSearch.Json

open AssetSearch.Number

/-- Only spaces and ends of lines stand between the parts. -/
structure Layout.IsBlank (layout : Layout) : Prop where
  lineBreak : ∀ depth, ∀ character ∈ (layout.lineBreak depth).toList, isSpace character = true
  afterColon : ∀ character ∈ layout.afterColon.toList, isSpace character = true

theorem Layout.compact_isBlank : compact.IsBlank where
  lineBreak := by
    intro depth character inside
    cases inside
  afterColon := by
    intro character inside
    cases inside

theorem Layout.indented_isBlank : indented.IsBlank where
  lineBreak := by
    intro depth character inside
    rw [indented, String.toList_ofList, List.mem_cons] at inside
    rcases inside with rfl | inside
    · rfl
    · rw [List.eq_of_mem_replicate inside]
      rfl
  afterColon := List.all_eq_true.mp rfl

mutual

/-- Texts and names keep their content, and numbers keep the integral that they are written as. -/
def Value.document : Value → Document
  | .null => .null
  | .truth value => .truth value
  | .number value => .number value.text.toList
  | .text content => .text (some content)
  | .list items => .list (itemDocuments items)
  | .object members => .object (memberDocuments members)

def itemDocuments : List Value → List Document
  | [] => []
  | item :: later => item.document :: itemDocuments later

def memberDocuments : List (String × Value) → List (Option String × Document)
  | [] => []
  | member :: later => memberDocument member :: memberDocuments later

def memberDocument : String × Value → Option String × Document
  | (name, value) => (some name, value.document)

end

mutual

/-- All numbers of the value are integers. -/
def Value.IsIntegral : Value → Prop
  | .number (.real ..) => False
  | .list items => ItemsAreIntegral items
  | .object members => MembersAreIntegral members
  | _ => True

def ItemsAreIntegral : List Value → Prop
  | [] => True
  | item :: later => item.IsIntegral ∧ ItemsAreIntegral later

def MembersAreIntegral : List (String × Value) → Prop
  | [] => True
  | member :: later => MemberIsIntegral member ∧ MembersAreIntegral later

def MemberIsIntegral : String × Value → Prop
  | (_, value) => value.IsIntegral

end

/-- The part stands for the character, and is spelled as the character is escaped. -/
structure IsReadAs (character : Char) (part : TextPart) : Prop where
  joins : ∀ later, joinParts (part :: later) = (joinParts later).map (character :: ·)
  spells : SpellsPart (escapeCharacter character) part

theorem hexValue?_digitChar {digit : Nat} (fits : digit < 16) :
    hexValue? (Nat.digitChar digit) = some digit := by
  have all : ∀ digit < 16, hexValue? (Nat.digitChar digit) = some digit := by decide
  exact all digit fits

/-- A control character that has no letter of its own is written in hex. -/
theorem isReadAs_unit {character : Char} (control : character.toNat < 32)
    (escaped : escapeCharacter character =
      ['\\', 'u', '0', '0', Nat.digitChar (character.toNat / 16),
        Nat.digitChar (character.toNat % 16)]) :
    IsReadAs character (.unit character.toNat) where
  joins := by
    intro later
    have notHigh : isHighSurrogate character.toNat = false := by
      simp only [isHighSurrogate, Bool.and_eq_false_iff, decide_eq_false_iff_not]
      omega
    have notLow : isLowSurrogate character.toNat = false := by
      simp only [isLowSurrogate, Bool.and_eq_false_iff, decide_eq_false_iff_not]
      omega
    rw [joinParts.eq_def]
    simp only [notHigh, notLow, Bool.false_eq_true, if_false, Char.ofNat_toNat]
  spells := by
    have zero : hexValue? '0' = some 0 := rfl
    have high := hexValue?_digitChar (show character.toNat / 16 < 16 by omega)
    have low := hexValue?_digitChar (show character.toNat % 16 < 16 by omega)
    have value : 16 * (16 * (16 * 0 + 0) + character.toNat / 16) + character.toNat % 16 =
        character.toNat := by omega
    have spelled := SpellsPart.hex zero zero high low
    rwa [value, ← escaped] at spelled

/-- Quotes, backslashes and the common control characters have a letter or stand for themselves
behind a backslash, and every other character stands for itself. -/
theorem exists_isReadAs (character : Char) : ∃ part, IsReadAs character part := by
  have letter (spells : SpellsPart (escapeCharacter character) (.character character)) :
      ∃ part, IsReadAs character part :=
    ⟨.character character, fun _ => rfl, spells⟩
  by_cases isNamed : character ∈ ['"', '\\', '\n', '\r', '\t', '\x08', '\x0c']
  · apply letter
    simp only [List.mem_cons, List.not_mem_nil, or_false] at isNamed
    rcases isNamed with rfl | rfl | rfl | rfl | rfl | rfl | rfl
    all_goals exact .escaped rfl
  · simp only [List.mem_cons, List.not_mem_nil, or_false, not_or] at isNamed
    obtain ⟨notQuote, notBackslash, _⟩ := isNamed
    have other : escapeCharacter character =
        if character.toNat < 32 then
          ['\\', 'u', '0', '0', Nat.digitChar (character.toNat / 16),
            Nat.digitChar (character.toNat % 16)]
        else [character] := by
      rw [escapeCharacter.eq_def]
      split <;> simp_all
    by_cases control : character.toNat < 32
    · rw [if_pos control] at other
      exact ⟨_, isReadAs_unit control other⟩
    · rw [if_neg control] at other
      apply letter
      rw [other]
      exact .bare (Nat.not_lt.mp control) notQuote notBackslash

/-- The parts of an escaped text form the text. -/
theorem exists_spellings (characters : List Char) :
    ∃ spellings parts, List.Forall₂ SpellsPart spellings parts ∧
      spellings.flatten = characters.flatMap escapeCharacter ∧
      joinParts parts = some characters := by
  induction characters with
  | nil => exact ⟨[], [], .nil, rfl, rfl⟩
  | cons character later inductionHypothesis =>
      obtain ⟨part, isRead⟩ := exists_isReadAs character
      obtain ⟨spellings, parts, spelled, flat, joined⟩ := inductionHypothesis
      refine ⟨_ :: spellings, part :: parts, .cons isRead.spells spelled, ?_, ?_⟩
      · rw [List.flatten_cons, flat, List.flatMap_cons]
      · rw [isRead.joins, joined, Option.map_some]

theorem spellsText_quotedText (content : String) :
    SpellsText (quotedText content).toList (some content) := by
  obtain ⟨spellings, parts, spelled, flat, joined⟩ := exists_spellings content.toList
  have whole := SpellsText.quoted spelled
  rw [flat, joined, Option.map_some, String.ofList_toList] at whole
  rwa [quotedText, String.toList_ofList, List.cons_append]

theorem isNamed_quotedText (name : String) {before : List Char} (start : AllSpaces before)
    (value : List Char) (document : Document) :
    Member.IsNamed ⟨before, (quotedText name).toList, [], some name, value, document⟩ where
  before := start
  name := by
    dsimp only
    exact spellsText_quotedText name
  after := nofun

/-- An integer has neither a plus nor a superfluous zero. -/
theorem isStrict_ofInteger (value : Int) : IsStrict (TypedNumeral.ofInteger value) where
  noPlus := by
    change (if value < 0 then Sign.minus else .absent) ≠ .plus
    split <;> decide
  whole := isDecimal_toDigits value.natAbs
  places := nofun

theorem spells_integer (value : Int) :
    Spells (JsonNumber.integer value).text.toList
      (.number (JsonNumber.integer value).text.toList) := by
  have spells := Spells.number (isStrict_ofInteger value)
  rwa [TypedNumeral.ofInteger_text] at spells

section

variable {layout : Layout}

/-- What stands before each of the parts belongs to it, and only spaces are left behind the last
one. -/
theorem enclose_toList (blank : layout.IsBlank) (depth : Nat) (first last : String)
    (parts : List String) :
    ∃ spaces, AllSpaces spaces ∧
      (enclose layout depth first last parts).toList =
        first.toList ++
          ([','].intercalate
            (parts.map fun part => (layout.lineBreak (depth + 1)).toList ++ part.toList) ++
            (spaces ++ last.toList)) := by
  rw [enclose]
  cases parts with
  | nil => exact ⟨[], nofun, String.toList_append⟩
  | cons part later =>
      have comma : ",".toList = [','] := rfl
      refine ⟨_, blank.lineBreak depth, ?_⟩
      rw [List.isEmpty_cons, if_neg Bool.false_ne_true]
      simp only [String.toList_append, String.toList_intercalate, comma, List.map_cons,
        intercalate_cons, List.append_assoc, List.flatMap_map]

mutual

/-- A value without fractions is written as a text of the grammar, on every level. -/
theorem Value.spells (blank : layout.IsBlank) (depth : Nat) :
    (value : Value) → value.IsIntegral →
      Spells (value.write layout depth).toList value.document
  | .null, _ => .null
  | .truth true, _ => .isTrue
  | .truth false, _ => .isFalse
  | .number (.integer value), _ => spells_integer value
  | .text content, _ => .text (spellsText_quotedText content)
  | .list items, integral => by
      obtain ⟨spaces, allSpaces, same⟩ :=
        enclose_toList blank depth "[" "]" (writeItems layout (depth + 1) items)
      obtain ⟨spelled, spell, texts, documents⟩ :=
        itemsSpell blank (depth + 1) (blank.lineBreak (depth + 1)) items integral
      rw [Value.write, same, Value.document, ← texts, ← documents]
      exact .list spelled spell allSpaces
  | .object members, integral => by
      obtain ⟨spaces, allSpaces, same⟩ :=
        enclose_toList blank depth "\x7b" "\x7d" (writeMembers layout (depth + 1) members)
      obtain ⟨spelled, named, spell, texts, entries⟩ :=
        membersSpell blank (depth + 1) (blank.lineBreak (depth + 1)) members integral
      rw [Value.write, same, Value.document, ← texts, ← entries]
      exact .object spelled named spell allSpaces

theorem itemsSpell (blank : layout.IsBlank) (depth : Nat) {spaces : List Char}
    (allSpaces : AllSpaces spaces) :
    (items : List Value) → ItemsAreIntegral items →
      ∃ spelled : List (List Char × Document), (∀ item ∈ spelled, Spells item.1 item.2) ∧
        spelled.map Prod.fst =
          (writeItems layout depth items).map (fun text => spaces ++ text.toList) ∧
        spelled.map Prod.snd = itemDocuments items
  | [], _ => ⟨[], nofun, rfl, rfl⟩
  | item :: later, integral => by
      obtain ⟨spelled, spell, texts, documents⟩ :=
        itemsSpell blank depth allSpaces later integral.2
      have first := item.spells blank depth integral.1
      refine ⟨(spaces ++ ((item.write layout depth).toList ++ []), item.document) :: spelled,
        List.forall_mem_cons.mpr ⟨.padded allSpaces first nofun, spell⟩, ?_, ?_⟩
      · rw [List.map_cons, texts, List.append_nil]
        rfl
      · rw [List.map_cons, documents]
        rfl

theorem membersSpell (blank : layout.IsBlank) (depth : Nat) {spaces : List Char}
    (allSpaces : AllSpaces spaces) :
    (members : List (String × Value)) → MembersAreIntegral members →
      ∃ spelled : List Member, (∀ member ∈ spelled, member.IsNamed) ∧
        (∀ member ∈ spelled, Spells member.value member.document) ∧
        spelled.map Member.text =
          (writeMembers layout depth members).map (fun text => spaces ++ text.toList) ∧
        spelled.map Member.entry = memberDocuments members
  | [], _ => ⟨[], nofun, nofun, rfl, rfl⟩
  | (name, value) :: later, integral => by
      obtain ⟨spelled, named, spell, texts, entries⟩ :=
        membersSpell blank depth allSpaces later integral.2
      have first := value.spells blank depth integral.1
      refine ⟨⟨spaces, (quotedText name).toList, [], some name,
          layout.afterColon.toList ++ ((value.write layout depth).toList ++ []),
          value.document⟩ :: spelled,
        List.forall_mem_cons.mpr ⟨isNamed_quotedText name allSpaces _ _, named⟩,
        List.forall_mem_cons.mpr ⟨.padded blank.afterColon first nofun, spell⟩, ?_, ?_⟩
      · rw [List.map_cons, texts, writeMembers, List.map_cons, writeMember, Member.text]
        simp only [String.toList_append, List.append_nil, List.append_assoc]
        rfl
      · rw [List.map_cons, entries]
        rfl

end

/-- The text of a value without fractions is read as the document of the value. -/
theorem ofText?_write (blank : layout.IsBlank) (depth : Nat) {value : Value}
    (integral : value.IsIntegral) :
    Document.ofText? (value.write layout depth) = some value.document :=
  (value.spells blank depth integral).ofText?_eq

end

end AssetSearch.Json
