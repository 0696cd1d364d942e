/-
This file shows which characters a change of letter case cannot bring about: it makes no blank, no
quote and no colon out of other characters, and it leaves no text empty that was not.
-/

import AssetSearch.Proofs.Text.Intervals
import AssetSearch.Text.Alphanumeric
import AssetSearch.Text.Blank
import AssetSearch.Text.LetterCase

namespace AssetSearch.Text

namespace CaseRun

/-- The run maps no code point into the intervals. -/
def Misses (intervals : Intervals) (run : CaseRun) : Prop :=
  ∀ interval ∈ intervals,
    run.last + run.distance < interval.1 ∨ interval.2 < run.first + run.distance

instance (intervals : Intervals) (run : CaseRun) : Decidable (run.Misses intervals) :=
  inferInstanceAs (Decidable (∀ interval ∈ intervals, _))

theorem Misses.isOutside {intervals : Intervals} {run : CaseRun} (misses : run.Misses intervals)
    (zero : IsOutside intervals 0) {codePoint : Nat} (lower : run.first ≤ codePoint)
    (upper : codePoint ≤ run.last) : IsOutside intervals (codePoint + run.distance).toNat := by
  intro interval inside
  have positive := zero interval inside
  rcases misses interval inside with before | after
  · left
    omega
  · right
    omega

/-- A code point that no run maps stays outside, since it maps to itself. -/
theorem image_isOutside {intervals : Intervals} {runs : List CaseRun}
    (misses : ∀ run ∈ runs, run.Misses intervals) (zero : IsOutside intervals 0) {codePoint : Nat}
    (outside : IsOutside intervals codePoint) : IsOutside intervals (image codePoint runs) := by
  induction runs with
  | nil => exact outside
  | cons run later inductionHypothesis =>
      rw [image]
      split
      · exact outside
      · next notBefore =>
          split
          · next notAfter =>
              split
              · exact (misses run List.mem_cons_self).isOutside zero (Nat.le_of_not_lt notBefore)
                  notAfter
              · exact outside
          · exact inductionHypothesis fun other inside =>
              misses other (List.mem_cons_of_mem run inside)

end CaseRun

/-- Numbers that stand for no character are replaced by the character zero. -/
theorem isOutside_ofNat {intervals : Intervals} (zero : IsOutside intervals 0) {codePoint : Nat}
    (outside : IsOutside intervals codePoint) :
    IsOutside intervals (Char.ofNat codePoint).toNat := by
  by_cases valid : codePoint.isValidChar
  · rw [Char.ofNat, dif_pos valid]
    exact outside
  · rw [Char.ofNat, dif_neg valid]
    exact zero

/-- Neither the runs nor the expansions of a case mapping lead into the intervals. -/
structure LeadsOutside (intervals : Intervals) (runs : List CaseRun)
    (expansions : List (Nat × List Nat)) : Prop where
  zero : IsOutside intervals 0
  runs : ∀ run ∈ runs, run.Misses intervals
  expansions : ∀ expansion ∈ expansions, ∀ codePoint ∈ expansion.2, IsOutside intervals codePoint

/-- A member that is looked up is in the list. -/
theorem mem_of_lookup {Key Value : Type} [BEq Key] [LawfulBEq Key] {members : List (Key × Value)}
    {key : Key} {value : Value} (found : members.lookup key = some value) :
    (key, value) ∈ members := by
  obtain ⟨before, after, rfl, -⟩ := List.lookup_eq_some_iff.mp found
  simp

theorem LeadsOutside.caseImage {intervals : Intervals} {runs : List CaseRun}
    {expansions : List (Nat × List Nat)} (leads : LeadsOutside intervals runs expansions)
    {character : Char} (outside : IsOutside intervals character.toNat) :
    ∀ image ∈ caseImage runs expansions character, IsOutside intervals image.toNat := by
  intro image inside
  rw [Text.caseImage] at inside
  split at inside
  · next codePoints found =>
      obtain ⟨codePoint, member, rfl⟩ := List.mem_map.mp inside
      exact isOutside_ofNat leads.zero
        (leads.expansions _ (mem_of_lookup found) codePoint member)
  · rw [List.mem_singleton] at inside
    rw [inside]
    exact isOutside_ofNat leads.zero (CaseRun.image_isOutside leads.runs leads.zero outside)

theorem caseImage_ne_nil {runs : List CaseRun} {expansions : List (Nat × List Nat)}
    (filled : ∀ expansion ∈ expansions, expansion.2 ≠ []) (character : Char) :
    caseImage runs expansions character ≠ [] := by
  rw [caseImage]
  split
  · next codePoints found =>
      intro empty
      exact filled _ (mem_of_lookup found) (List.map_eq_nil_iff.mp empty)
  · exact List.cons_ne_nil _ _

/-- These are the code points that end a token or have a meaning inside of it. -/
def separatorIntervals : Intervals := (0x22, 0x22) :: (0x3A, 0x3A) :: blankIntervals

/-- The character neither ends a token nor has a meaning inside of it. -/
def IsPlain (character : Char) : Prop := IsOutside separatorIntervals character.toNat

instance (character : Char) : Decidable (IsPlain character) :=
  inferInstanceAs (Decidable (IsOutside _ _))

theorem IsPlain.isBlank_eq {character : Char} (plain : IsPlain character) :
    isBlank character = false := by
  refine Bool.eq_false_iff.mpr fun blank => ?_
  obtain ⟨interval, inside, lower, upper⟩ := Intervals.exists_of_contains blank
  have outside := plain interval (List.mem_cons_of_mem _ (List.mem_cons_of_mem _ inside))
  omega

theorem IsPlain.ne_quote {character : Char} (plain : IsPlain character) : character ≠ '"' := by
  rintro rfl
  exact absurd plain (by decide)

theorem IsPlain.ne_colon {character : Char} (plain : IsPlain character) : character ≠ ':' := by
  rintro rfl
  exact absurd plain (by decide)

theorem isPlain_ofAlphanumeric {character : Char} (alphanumeric : isAlphanumeric character = true) :
    IsPlain character := by
  have apart : AreApart alphanumericIntervals separatorIntervals := by decide +kernel
  exact apart.isOutside alphanumeric

theorem lowerOf_isPlain {character : Char} (plain : IsPlain character) :
    ∀ image ∈ lowerOf character, IsPlain image := by
  have leads : LeadsOutside separatorIntervals lowerRuns lowerExpansions :=
    ⟨by decide, by decide +kernel, by decide +kernel⟩
  exact leads.caseImage plain

theorem upperOf_isPlain {character : Char} (plain : IsPlain character) :
    ∀ image ∈ upperOf character, IsPlain image := by
  have leads : LeadsOutside separatorIntervals upperRuns upperExpansions :=
    ⟨by decide, by decide +kernel, by decide +kernel⟩
  exact leads.caseImage plain

theorem lowerOf_ne_nil (character : Char) : lowerOf character ≠ [] :=
  caseImage_ne_nil (by decide +kernel) character

/-- The first part is the image of one character, in which a sigma may have its final form. -/
theorem lowerAfter_cons (reversedContext : List Char) (character : Char) (rest : List Char) :
    ∃ images, lowerAfter reversedContext (character :: rest) =
        images ++ lowerAfter (character :: reversedContext) rest ∧
      (images = lowerOf character ∨ character = 'Σ' ∧ images = ['ς']) := by
  refine ⟨_, rfl, ?_⟩
  split
  · next sigma =>
      split
      · exact Or.inr ⟨sigma, rfl⟩
      · subst sigma
        exact Or.inl (by decide +kernel)
  · exact Or.inl rfl

theorem lowerAfter_isPlain {characters : List Char}
    (plain : ∀ character ∈ characters, IsPlain character) (reversedContext : List Char) :
    ∀ image ∈ lowerAfter reversedContext characters, IsPlain image := by
  induction characters generalizing reversedContext with
  | nil => simp [lowerAfter]
  | cons character rest inductionHypothesis =>
      obtain ⟨first, others⟩ := List.forall_mem_cons.mp plain
      obtain ⟨images, split, shape⟩ := lowerAfter_cons reversedContext character rest
      rw [split, List.forall_mem_append]
      refine ⟨?_, inductionHypothesis others _⟩
      rcases shape with rfl | ⟨rfl, rfl⟩
      · exact lowerOf_isPlain first
      · exact List.forall_mem_singleton.mpr (by decide)

theorem lowerCase_isPlain {characters : List Char}
    (plain : ∀ character ∈ characters, IsPlain character) :
    ∀ image ∈ lowerCase characters, IsPlain image :=
  lowerAfter_isPlain plain []

/-- The lower case of a text is empty only if the text is. -/
theorem lowerCase_eq_nil_iff {characters : List Char} :
    lowerCase characters = [] ↔ characters = [] := by
  cases characters with
  | nil => exact Iff.rfl
  | cons character rest =>
      obtain ⟨images, split, shape⟩ := lowerAfter_cons [] character rest
      have filled : images ≠ [] := by
        rcases shape with rfl | ⟨-, rfl⟩
        · exact lowerOf_ne_nil character
        · exact List.cons_ne_nil _ _
      rw [lowerCase, split]
      simp [filled]

end AssetSearch.Text
