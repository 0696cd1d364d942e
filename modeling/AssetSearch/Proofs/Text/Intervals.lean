/-
This file shows what it means that a code point is found in intervals, and when two lists of
intervals have no code point in common.
-/

import AssetSearch.Text.Intervals

namespace AssetSearch.Text

/-- A found code point lies in one of the intervals. -/
theorem Intervals.exists_of_contains {codePoint : Nat} {intervals : Intervals}
    (found : intervals.contains codePoint = true) :
    ∃ interval ∈ intervals, interval.1 ≤ codePoint ∧ codePoint ≤ interval.2 := by
  induction intervals with
  | nil => simp [contains] at found
  | cons head later inductionHypothesis =>
      obtain ⟨first, last⟩ := head
      rw [contains] at found
      split at found
      · simp at found
      · split at found
        · exact ⟨(first, last), by simp, by omega, by assumption⟩
        · obtain ⟨interval, member, bounds⟩ := inductionHypothesis found
          exact ⟨interval, List.mem_cons_of_mem _ member, bounds⟩

/-- The code point lies in none of the intervals, in whichever order these stand. -/
def IsOutside (intervals : Intervals) (codePoint : Nat) : Prop :=
  ∀ interval ∈ intervals, codePoint < interval.1 ∨ interval.2 < codePoint

instance (intervals : Intervals) (codePoint : Nat) : Decidable (IsOutside intervals codePoint) :=
  inferInstanceAs (Decidable (∀ interval ∈ intervals, _))

/-- No code point lies in an interval of both lists. -/
def AreApart (first second : Intervals) : Prop :=
  ∀ interval ∈ first, ∀ other ∈ second, interval.2 < other.1 ∨ other.2 < interval.1

/-- The check runs through both lists. -/
instance (first second : Intervals) : Decidable (AreApart first second) :=
  decidable_of_iff
    (first.all fun interval => second.all fun other =>
      Nat.blt interval.2 other.1 || Nat.blt other.2 interval.1)
    (by simp [AreApart])

theorem AreApart.isOutside {first second : Intervals} (apart : AreApart first second)
    {codePoint : Nat} (found : first.contains codePoint = true) :
    IsOutside second codePoint := by
  intro other inside
  obtain ⟨interval, member, lower, upper⟩ := Intervals.exists_of_contains found
  rcases apart interval member other inside with before | after
  · exact Or.inl (Nat.lt_of_le_of_lt upper before)
  · exact Or.inr (Nat.lt_of_lt_of_le after lower)

end AssetSearch.Text
