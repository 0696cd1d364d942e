/-
This file shows how lists and objects are cut into tokens and read from them, part by part.
-/

import AssetSearch.Json.Document
import AssetSearch.Proofs.Json.WrittenTokens
import Mathlib.Data.List.Forall2

namespace AssetSearch.Json

/-- The parts of a container are separated by commas. -/
def separated : List (List Token) → List Token
  | [] => []
  | first :: later => first ++ later.flatMap (.comma :: ·)

/-- A reader that needs a value takes the tokens as this document. -/
def Reads (tokens : List Token) (document : Document) : Prop :=
  ∀ containers rest, DocumentReader.run ⟨containers, .value⟩ (tokens ++ rest) =
    DocumentReader.run (DocumentReader.place document containers) rest

/-- A value does not begin with the end of a list. -/
theorem Reads.exists_cons {tokens : List Token} {document : Document}
    (reads : Reads tokens document) :
    ∃ first later, tokens = first :: later ∧ first ≠ .closeBracket := by
  have whole := reads [] []
  cases tokens with
  | nil => cases whole
  | cons first later =>
      refine ⟨first, later, rfl, ?_⟩
      rintro rfl
      cases whole

theorem Reads.ofTokens?_eq {tokens : List Token} {document : Document}
    (reads : Reads tokens document) : Document.ofTokens? tokens = some document := by
  have whole := reads [] []
  rw [List.append_nil] at whole
  rw [Document.ofTokens?, whole]
  rfl

/-- This is how the parts of a list or an object are read. -/
structure Container (Part : Type) where
  openMark : Token
  closeMark : Token
  opened : List Part → OpenContainer
  firstExpectation : Expectation
  laterExpectation : Expectation
  whole : List Part → Document

def listContainer : Container Document :=
  ⟨.openBracket, .closeBracket, .list, .itemOrEnd, .value, .list⟩

def objectContainer : Container (Option String × Document) :=
  ⟨.openBrace, .closeBrace, .object, .nameOrEnd, .name, .object⟩

namespace Container

/-- The first part may be missing, and a comma asks for another part. -/
structure IsLawful {Part : Type} (container : Container Part) : Prop where
  opens : ∀ containers, DocumentReader.step ⟨containers, .value⟩ container.openMark =
    some ⟨container.opened [] :: containers, container.firstExpectation⟩
  begins : ∀ containers token, token ≠ container.closeMark →
    DocumentReader.step ⟨containers, container.firstExpectation⟩ token =
      DocumentReader.step ⟨containers, container.laterExpectation⟩ token
  goesOn : ∀ parts outer,
    DocumentReader.step ⟨container.opened parts :: outer, .commaOrEnd⟩ .comma =
      some ⟨container.opened parts :: outer, container.laterExpectation⟩
  closesEmpty : ∀ outer,
    DocumentReader.step ⟨container.opened [] :: outer, container.firstExpectation⟩
        container.closeMark =
      some (DocumentReader.place (container.whole []) outer)
  closes : ∀ parts outer,
    DocumentReader.step ⟨container.opened parts :: outer, .commaOrEnd⟩ container.closeMark =
      some (DocumentReader.place (container.whole parts.reverse) outer)

theorem list_isLawful : listContainer.IsLawful where
  opens := fun _ => rfl
  begins := by
    intro containers token notEnd
    exact if_neg notEnd
  goesOn := fun _ _ => rfl
  closesEmpty := fun _ => rfl
  closes := fun _ _ => rfl

theorem object_isLawful : objectContainer.IsLawful where
  opens := fun _ => rfl
  begins := by
    intro containers token notEnd
    exact if_neg notEnd
  goesOn := fun _ _ => rfl
  closesEmpty := fun _ => rfl
  closes := fun _ _ => rfl

section

variable {Part : Type} {container : Container Part}

/-- In an open container the tokens are read as one more part. -/
structure ReadsPart (container : Container Part) (tokens : List Token) (part : Part) : Prop where
  begins : ∃ first later, tokens = first :: later ∧ first ≠ container.closeMark
  run : ∀ parts outer rest,
    DocumentReader.run ⟨container.opened parts :: outer, container.laterExpectation⟩
        (tokens ++ rest) =
      DocumentReader.run ⟨container.opened (part :: parts) :: outer, .commaOrEnd⟩ rest

theorem IsLawful.run_later (lawful : container.IsLawful) {tokenLists : List (List Token)}
    {parts : List Part} (reads : List.Forall₂ container.ReadsPart tokenLists parts)
    (before : List Part) (outer : List OpenContainer) (rest : List Token) :
    DocumentReader.run ⟨container.opened before :: outer, .commaOrEnd⟩
        (tokenLists.flatMap (.comma :: ·) ++ container.closeMark :: rest) =
      DocumentReader.run
        (DocumentReader.place (container.whole (before.reverse ++ parts)) outer) rest := by
  induction reads generalizing before with
  | nil =>
      rw [List.flatMap_nil, List.nil_append, DocumentReader.run, lawful.closes, List.append_nil]
  | @cons tokens part _ laterParts read _ inductionHypothesis =>
      rw [List.flatMap_cons, List.cons_append, List.cons_append, DocumentReader.run, lawful.goesOn]
      simp only
      rw [List.append_assoc, read.run, inductionHypothesis, List.reverse_cons, List.append_assoc]
      rfl

/-- The parts between the marks are read one after the other. -/
theorem IsLawful.reads (lawful : container.IsLawful) {tokenLists : List (List Token)}
    {parts : List Part} (reads : List.Forall₂ container.ReadsPart tokenLists parts) :
    Reads (container.openMark :: (separated tokenLists ++ [container.closeMark]))
      (container.whole parts) := by
  intro containers rest
  rw [List.cons_append, List.append_assoc, DocumentReader.run, lawful.opens]
  simp only
  cases reads with
  | nil =>
      rw [separated, List.nil_append, List.singleton_append, DocumentReader.run, lawful.closesEmpty]
  | @cons tokens part laterTokens laterParts read later =>
      obtain ⟨first, others, rfl, notEnd⟩ := read.begins
      have run := read.run [] containers
      rw [separated, List.append_assoc, List.cons_append, DocumentReader.run,
        lawful.begins _ _ notEnd, ← DocumentReader.run, ← List.cons_append, run]
      exact lawful.run_later later [part] containers rest

end

end Container

/-- A token that is a document by itself opens no container. -/
theorem reads_scalar {token : Token} {document : Document}
    (scalar : token.scalar? = some document) : Reads [token] document := by
  intro containers rest
  have step : DocumentReader.step ⟨containers, .value⟩ token =
      some (DocumentReader.place document containers) := by
    have read : DocumentReader.readValue containers token =
        token.scalar?.map fun document => DocumentReader.place document containers := by
      cases token with
      | openBracket => cases scalar
      | openBrace => cases scalar
      | _ => rfl
    rw [DocumentReader.step, read, scalar, Option.map_some]
  rw [List.singleton_append, DocumentReader.run, step]

/-- In a list every value is a part. -/
theorem Reads.readsItem {tokens : List Token} {document : Document}
    (reads : Reads tokens document) : listContainer.ReadsPart tokens document where
  begins := reads.exists_cons
  run := fun parts outer rest => reads (.list parts :: outer) rest

/-- In an object a part has a name, a colon and a value. -/
theorem Reads.readsMember {tokens : List Token} {document : Document}
    (reads : Reads tokens document) (name : Option String) :
    objectContainer.ReadsPart (.text name :: .colon :: tokens) (name, document) where
  begins := ⟨_, _, rfl, by simp [objectContainer]⟩
  run := fun parts outer rest => reads (.member parts name :: outer) rest

theorem intercalate_cons (separator first : List Char) (later : List (List Char)) :
    separator.intercalate (first :: later) = first ++ later.flatMap (separator ++ ·) := by
  induction later generalizing first with
  | nil => rw [List.intercalate_singleton, List.flatMap_nil, List.append_nil]
  | cons second later inductionHypothesis =>
      rw [List.intercalate_cons_cons, inductionHypothesis, List.flatMap_cons, List.append_assoc,
        List.append_assoc]

theorem yieldsAlways_comma : YieldsAlways [','] [.comma] :=
  yieldsAlways_punctuation rfl rfl (by decide) rfl (by decide) rfl

/-- Before each of the later parts there is a comma, which also ends the part before it. -/
theorem yields_later {parts : List (List Char)} {tokenLists : List (List Token)}
    (yields : List.Forall₂ Yields parts tokenLists) :
    Yields (parts.flatMap (',' :: ·)) (tokenLists.flatMap (.comma :: ·)) ∧
      EndsToken (parts.flatMap (',' :: ·)) := by
  induction yields with
  | nil => exact ⟨(yieldsAlways_spaces (by simp)).yields, endsToken_nil⟩
  | cons part _ inductionHypothesis =>
      obtain ⟨later, ends⟩ := inductionHypothesis
      exact ⟨(yieldsAlways_comma.append_yields part).append ends later,
        endsToken_cons.mpr ⟨rfl, rfl⟩⟩

theorem exists_tokenLists {Text Part : Type} {yieldsTokens : Text → List Token → Prop}
    {container : Container Part} {texts : List Text} {parts : List Part}
    (written : List.Forall₂
      (fun text part => ∃ tokens, yieldsTokens text tokens ∧ container.ReadsPart tokens part)
      texts parts) :
    ∃ tokenLists, List.Forall₂ yieldsTokens texts tokenLists ∧
      List.Forall₂ container.ReadsPart tokenLists parts := by
  induction written with
  | nil => exact ⟨[], .nil, .nil⟩
  | cons part _ inductionHypothesis =>
      obtain ⟨tokens, yields, reads⟩ := part
      obtain ⟨tokenLists, laterYields, laterReads⟩ := inductionHypothesis
      exact ⟨tokens :: tokenLists, .cons yields laterYields, .cons reads laterReads⟩

/-- These characters alone are the marks around the parts. -/
structure Container.IsDelimited {Part : Type} (container : Container Part)
    (first last : Char) : Prop where
  opens : YieldsAlways [first] [container.openMark]
  closes : YieldsAlways [last] [container.closeMark]
  ends : EndsToken [last]

theorem list_isDelimited : listContainer.IsDelimited '[' ']' where
  opens := yieldsAlways_punctuation rfl rfl (by decide) rfl (by decide) rfl
  closes := yieldsAlways_punctuation rfl rfl (by decide) rfl (by decide) rfl
  ends := endsToken_cons.mpr ⟨rfl, rfl⟩

theorem object_isDelimited : objectContainer.IsDelimited '\x7b' '\x7d' where
  opens := yieldsAlways_punctuation rfl rfl (by decide) rfl (by decide) rfl
  closes := yieldsAlways_punctuation rfl rfl (by decide) rfl (by decide) rfl
  ends := endsToken_cons.mpr ⟨rfl, rfl⟩

end AssetSearch.Json
