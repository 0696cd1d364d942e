/-
This file shows that the tokens of a query are the maximal runs of its token positions. A blank is
at a token position when it is quoted and something follows it that is not blank.
-/

import AssetSearch.Proofs.Query.Words
import AssetSearch.Proofs.Text.Runs

namespace AssetSearch.Query

open AssetSearch.Text

/-- A blank is part of a token after an odd number of double quotes, if it is not at the end. -/
def IsTokenPosition (query : List Char) (index : Nat) : Prop :=
  ∃ character, query[index]? = some character ∧
    (isBlank character = false ∨
      (query.take index).count '"' % 2 = 1 ∧
        ∃ later ∈ query.drop (index + 1), isBlank later = false)

/-- The scan of a text that may begin inside quotes keeps the characters at these positions. -/
def IsKept (quoted : Bool) (characters : List Char) (index : Nat) : Prop :=
  ∃ character, characters[index]? = some character ∧
    (isBlank character = false ∨ quotedAfter quoted (characters.take index) = true)

theorem isKept_zero {quoted : Bool} {character : Char} {rest : List Char} :
    IsKept quoted (character :: rest) 0 ↔ (isBlank character && !quoted) = false := by
  cases blank : isBlank character <;> simp [IsKept, blank]

theorem isKept_succ {quoted : Bool} {character : Char} {rest : List Char} (index : Nat) :
    IsKept quoted (character :: rest) (index + 1) ↔
      IsKept (quoted != (character == '"')) rest index := by
  simp [IsKept]

theorem IsKept.lt_length {quoted : Bool} {characters : List Char} {index : Nat}
    (kept : IsKept quoted characters index) : index < characters.length := by
  obtain ⟨character, found, -⟩ := kept
  exact (List.getElem?_eq_some_iff.mp found).1

theorem odd_iff_quotedAfter {characters : List Char} :
    characters.count '"' % 2 = 1 ↔ quotedAfter false characters = true := by
  rw [← Bool.not_eq_false, quotedAfter_false_iff]
  omega

/-- Something follows each blank of a text that ends with no blank. -/
theorem exists_solid_after {characters : List Char} (ends : EndsSolid characters) {index : Nat}
    {character : Char} (found : characters[index]? = some character)
    (blank : isBlank character = true) :
    ∃ later ∈ characters.drop (index + 1), isBlank later = false := by
  have inside := (List.getElem?_eq_some_iff.mp found).1
  have left : characters.drop (index + 1) ≠ [] := by
    intro none
    have isLast : characters.getLast? = some character := by
      rw [List.drop_eq_nil_iff] at none
      rw [List.getLast?_eq_getElem?, ← found]
      congr 1
      omega
    rw [ends character isLast] at blank
    cases blank
  have endsLeft : EndsSolid (characters.drop (index + 1)) := by
    rw [← List.take_append_drop (index + 1) characters] at ends
    exact (endsSolid_append left).mp ends
  exact ⟨_, List.getLast_mem left, endsLeft _ (List.getLast?_eq_some_getLast left)⟩

/-- No blank at the end of a query is at a token position. -/
theorem isTokenPosition_append_blanks {characters blanks : List Char}
    (ends : EndsSolid characters) (blank : AllBlank blanks) {index : Nat} :
    IsTokenPosition (characters ++ blanks) index ↔ IsKept false characters index := by
  constructor
  · intro given
    obtain ⟨character, found, belongs⟩ := given
    have inside : index < characters.length := by
      by_contra beyond
      rw [List.getElem?_append_right (by omega)] at found
      rcases belongs with solid | ⟨-, later, after, solid⟩
      · rw [blank character (List.mem_of_getElem? found)] at solid
        cases solid
      · rw [List.drop_append, List.drop_eq_nil_of_le (by omega), List.nil_append] at after
        rw [blank later (List.mem_of_mem_drop after)] at solid
        cases solid
    rw [List.getElem?_append_left inside] at found
    rw [List.take_append_of_le_length (Nat.le_of_lt inside)] at belongs
    refine ⟨character, found, belongs.imp id ?_⟩
    intro given
    obtain ⟨odd, -⟩ := given
    exact odd_iff_quotedAfter.mp odd
  · intro given
    obtain ⟨character, found, belongs⟩ := given
    have inside := (List.getElem?_eq_some_iff.mp found).1
    refine ⟨character, by rw [List.getElem?_append_left inside, found], ?_⟩
    cases here : isBlank character with
    | false => exact Or.inl rfl
    | true =>
        have quoted := belongs.resolve_left (by rw [here]; exact Bool.noConfusion)
        obtain ⟨later, after, solid⟩ := exists_solid_after ends found here
        refine Or.inr ⟨?_, later, ?_, solid⟩
        · rw [List.take_append_of_le_length (Nat.le_of_lt inside)]
          exact odd_iff_quotedAfter.mpr quoted
        · rw [List.drop_append]
          exact List.mem_append_left _ after

/-- The positions that are kept after the blanks at the end are removed are the token positions. -/
theorem isTokenPosition_iff_isKept {query : List Char} {index : Nat} :
    IsTokenPosition query index ↔ IsKept false (trimEnd query) index := by
  obtain ⟨blanks, blank, split⟩ := exists_trimEnd_append query
  conv_lhs => rw [split]
  exact isTokenPosition_append_blanks (endsSolid_trimEnd query) blank

/-- This token holds the characters from one position up to another one. -/
def runToken (position : Nat) (characters : List Char) (start stop : Nat) : Token :=
  ⟨(characters.take stop).drop start, position + byteLength (characters.take start)⟩

theorem runToken_succ (position : Nat) (character : Char) (rest : List Char) (start stop : Nat) :
    runToken position (character :: rest) (start + 1) (stop + 1) =
      runToken (position + character.utf8Size) rest start stop := by
  simp [runToken, byteLength, Nat.add_assoc]

/-- The first part is the run at the beginning, if there is one, and the others are tokens. -/
structure CutAtRuns (position : Nat) (quoted : Bool) (characters first : List Char)
    (later : List Token) : Prop where
  isFirst : characters.take first.length = first
  kept : ∀ index < first.length, IsKept quoted characters index
  stops : ¬ IsKept quoted characters first.length
  later_iff : ∀ token, token ∈ later ↔ ∃ start stop, 0 < start ∧
    IsMaximalRun (IsKept quoted characters) start stop ∧
      token = runToken position characters start stop

theorem mem_consToken_iff {first : List Char} {position : Nat} {later : List Token}
    {token : Token} :
    token ∈ consToken first position later ↔
      (first ≠ [] ∧ token = ⟨first, position⟩) ∨ token ∈ later := by
  cases first <;> simp [consToken]

/-- A run at the beginning is the first part. -/
theorem CutAtRuns.isMaximalRun_zero_iff {position : Nat} {quoted : Bool}
    {characters first : List Char} {later : List Token}
    (cuts : CutAtRuns position quoted characters first later) {stop : Nat} :
    IsMaximalRun (IsKept quoted characters) 0 stop ↔ first ≠ [] ∧ stop = first.length := by
  constructor
  · intro run
    have ends : stop = first.length := by
      rcases Nat.lt_trichotomy stop first.length with less | same | more
      · exact absurd (cuts.kept stop less) run.right
      · exact same
      · exact absurd (run.filled _ (Nat.zero_le _) more) cuts.stops
    have nonempty := run.nonempty
    rw [ends] at nonempty
    exact ⟨List.ne_nil_of_length_pos nonempty, ends⟩
  · intro given
    obtain ⟨nonempty, rfl⟩ := given
    refine ⟨List.length_pos_of_ne_nil nonempty, ?_, ?_, cuts.stops⟩
    · intro index _ less
      exact cuts.kept index less
    · intro index next
      omega

/-- With the run at the beginning as a token, the tokens are all the runs. -/
theorem CutAtRuns.mem_iff {position : Nat} {quoted : Bool} {characters first : List Char}
    {later : List Token} (cuts : CutAtRuns position quoted characters first later)
    (token : Token) :
    token ∈ consToken first position later ↔ ∃ start stop,
      IsMaximalRun (IsKept quoted characters) start stop ∧
        token = runToken position characters start stop := by
  have firstToken : ⟨first, position⟩ = runToken position characters 0 first.length := by
    simp [runToken, cuts.isFirst, byteLength]
  rw [mem_consToken_iff, cuts.later_iff]
  constructor
  · intro given
    rcases given with ⟨nonempty, same⟩ | ⟨start, stop, -, run⟩
    · refine ⟨0, first.length, cuts.isMaximalRun_zero_iff.mpr ⟨nonempty, rfl⟩, ?_⟩
      rw [same, firstToken]
    · exact ⟨start, stop, run⟩
  · intro given
    obtain ⟨start, stop, run, same⟩ := given
    rcases Nat.eq_zero_or_pos start with zero | positive
    · subst zero
      obtain ⟨nonempty, rfl⟩ := cuts.isMaximalRun_zero_iff.mp run
      exact Or.inl ⟨nonempty, same.trans firstToken.symm⟩
    · exact Or.inr ⟨start, stop, positive, run, same⟩

theorem CutAtRuns.nil (position : Nat) (quoted : Bool) : CutAtRuns position quoted [] [] [] := by
  refine ⟨rfl, ?_, ?_, ?_⟩
  · intro index less
    exact absurd less (Nat.not_lt_zero _)
  · intro kept
    exact absurd kept.lt_length (Nat.lt_irrefl _)
  · intro token
    constructor
    · intro inside
      cases inside
    · intro given
      obtain ⟨start, stop, -, run, -⟩ := given
      have kept := run.filled start (Nat.le_refl _) run.nonempty
      exact absurd kept.lt_length (Nat.not_lt_zero _)

/-- After a blank outside quotes every run of the rest is a token. -/
theorem CutAtRuns.consBlank {position : Nat} {character : Char} {rest first : List Char}
    {later : List Token} (blank : isBlank character = true)
    (cuts : CutAtRuns (position + character.utf8Size) false rest first later) :
    CutAtRuns position false (character :: rest) []
      (consToken first (position + character.utf8Size) later) := by
  have unchanged : (false != (character == '"')) = false := by
    simpa using isBlank_ne_quote blank
  have moved (index : Nat) :
      IsKept false (character :: rest) (index + 1) ↔ IsKept false rest index := by
    rw [isKept_succ, unchanged]
  have stops : ¬ IsKept false (character :: rest) 0 := by
    rw [isKept_zero, blank]
    exact Bool.noConfusion
  refine ⟨rfl, ?_, stops, ?_⟩
  · intro index less
    exact absurd less (Nat.not_lt_zero _)
  · intro token
    rw [cuts.mem_iff, exists_positive_run moved]
    simp only [runToken_succ, stops, not_false_eq_true, implies_true, and_true]

/-- Another character goes on with the run at the beginning, or begins it. -/
theorem CutAtRuns.consSolid {position : Nat} {quoted : Bool} {character : Char}
    {rest first : List Char} {later : List Token} (solid : (isBlank character && !quoted) = false)
    (cuts : CutAtRuns (position + character.utf8Size) (quoted != (character == '"')) rest first
      later) :
    CutAtRuns position quoted (character :: rest) (character :: first) later := by
  have moved (index : Nat) : IsKept quoted (character :: rest) (index + 1) ↔
      IsKept (quoted != (character == '"')) rest index := isKept_succ index
  have begins : IsKept quoted (character :: rest) 0 := isKept_zero.mpr solid
  refine ⟨?_, ?_, ?_, ?_⟩
  · rw [List.length_cons, List.take_succ_cons, cuts.isFirst]
  · intro index less
    cases index with
    | zero => exact begins
    | succ index =>
        rw [List.length_cons] at less
        exact (moved index).mpr (cuts.kept index (Nat.lt_of_succ_lt_succ less))
  · rw [List.length_cons, moved]
    exact cuts.stops
  · intro token
    rw [cuts.later_iff, exists_positive_run moved]
    simp only [runToken_succ, begins, not_true_eq_false, imp_false, ← Nat.pos_iff_ne_zero]
    constructor
    · intro given
      obtain ⟨start, stop, positive, run, same⟩ := given
      exact ⟨start, stop, ⟨run, positive⟩, same⟩
    · intro given
      obtain ⟨start, stop, ⟨run, positive⟩, same⟩ := given
      exact ⟨start, stop, positive, run, same⟩

/-- The scan cuts a text at its runs, whatever its position and its state are. -/
theorem tokensFrom_cutAtRuns (position : Nat) (quoted : Bool) (characters : List Char) :
    CutAtRuns position quoted characters (tokensFrom position quoted characters).1
      (tokensFrom position quoted characters).2 := by
  induction characters generalizing position quoted with
  | nil => exact CutAtRuns.nil position quoted
  | cons character rest inductionHypothesis =>
      rcases separates_or_solid quoted character with ⟨outside, blank⟩ | solid
      · subst outside
        rw [tokensFrom_blank _ blank]
        exact CutAtRuns.consBlank blank (inductionHypothesis _ _)
      · rw [tokensFrom_solid _ solid]
        exact CutAtRuns.consSolid solid (inductionHypothesis _ _)

/-- The tokens of a query are the maximal runs of its token positions. -/
theorem mem_tokens_iff {query : List Char} {token : Token} :
    token ∈ tokens query ↔ ∃ start stop,
      IsMaximalRun (IsTokenPosition query) start stop ∧ token = runToken 0 query start stop := by
  have samePositions : IsKept false (trimEnd query) = IsTokenPosition query := by
    funext index
    exact propext isTokenPosition_iff_isKept.symm
  obtain ⟨blanks, -, split⟩ := exists_trimEnd_append query
  have sameToken : ∀ {start stop}, IsMaximalRun (IsTokenPosition query) start stop →
      runToken 0 (trimEnd query) start stop = runToken 0 query start stop := by
    intro start stop run
    have after := run.nonempty
    have within : stop ≤ (trimEnd query).length := by
      have kept := run.filled (stop - 1) (by omega) (by omega)
      rw [← samePositions] at kept
      have bound := kept.lt_length
      omega
    conv_rhs => rw [split]
    rw [runToken, runToken, List.take_append_of_le_length within,
      List.take_append_of_le_length (by omega)]
  rw [tokens_eq_tokensAt, tokensAt,
    (tokensFrom_cutAtRuns 0 false (trimEnd query)).mem_iff, samePositions]
  constructor
  · intro given
    obtain ⟨start, stop, run, same⟩ := given
    exact ⟨start, stop, run, same.trans (sameToken run)⟩
  · intro given
    obtain ⟨start, stop, run, same⟩ := given
    exact ⟨start, stop, run, same.trans (sameToken run).symm⟩

/-- The tokens after a position stand one after the other, and the first part stands before them. -/
structure IsIncreasing (position : Nat) (first : List Char) (later : List Token) : Prop where
  after : ∀ token ∈ later, position + byteLength first < token.start
  increasing : later.Pairwise fun earlier token => earlier.span.stop < token.start

theorem IsIncreasing.consToken {position : Nat} {first : List Char} {later : List Token}
    (increases : IsIncreasing position first later) :
    (∀ token ∈ consToken first position later, position ≤ token.start) ∧
      (consToken first position later).Pairwise
        fun earlier token => earlier.span.stop < token.start := by
  cases first with
  | nil =>
      refine ⟨?_, increases.increasing⟩
      intro token inside
      exact Nat.le_of_lt (increases.after token inside)
  | cons character rest =>
      refine ⟨?_, List.Pairwise.cons increases.after increases.increasing⟩
      intro token inside
      rcases List.mem_cons.mp inside with same | further
      · rw [same]
      · have beyond := increases.after token further
        omega

theorem tokensFrom_isIncreasing (position : Nat) (quoted : Bool) (characters : List Char) :
    IsIncreasing position (tokensFrom position quoted characters).1
      (tokensFrom position quoted characters).2 := by
  induction characters generalizing position quoted with
  | nil => exact ⟨by simp, by simp⟩
  | cons character rest inductionHypothesis =>
      have wide := character.utf8Size_pos
      rcases separates_or_solid quoted character with ⟨outside, blank⟩ | solid
      · subst outside
        have later := (inductionHypothesis (position + character.utf8Size) false).consToken
        rw [tokensFrom_blank _ blank]
        refine ⟨?_, later.2⟩
        intro token inside
        have beyond := later.1 token inside
        rw [byteLength]
        omega
      · have later := inductionHypothesis (position + character.utf8Size)
          (quoted != (character == '"'))
        rw [tokensFrom_solid _ solid]
        refine ⟨?_, later.increasing⟩
        intro token inside
        have beyond := later.after token inside
        rw [byteLength]
        omega

/-- At least one character stands between two tokens. -/
theorem tokens_increasing (query : List Char) :
    (tokens query).Pairwise fun earlier token => earlier.span.stop < token.start :=
  (tokensFrom_isIncreasing 0 false (trimEnd query)).consToken.2

end AssetSearch.Query
