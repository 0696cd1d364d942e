/-
This file holds maximal runs of positions. Every position that is inside lies in one of them.
-/

import Mathlib.Order.Nat

namespace AssetSearch.Text

/-- The positions from the first one up to the last one, which is not included, are inside, and
the positions next to them are not. -/
structure IsMaximalRun (inside : Nat → Prop) (first last : Nat) : Prop where
  nonempty : first < last
  filled : ∀ index, first ≤ index → index < last → inside index
  left : ∀ index, index + 1 = first → ¬ inside index
  right : ¬ inside last

/-- A position inside lies in a maximal run if the positions from some bound on are outside. -/
theorem exists_maximalRun {inside : Nat → Prop} {bound index : Nat}
    (bounded : ∀ position, bound ≤ position → ¬ inside position) (member : inside index) :
    ∃ first last, IsMaximalRun inside first last ∧ first ≤ index ∧ index < last := by
  classical
  have ends : ∃ last, index < last ∧ ¬ inside last := by
    refine ⟨max bound (index + 1), ?_, ?_⟩
    · omega
    · exact bounded _ (by omega)
  have starts : ∃ first, first ≤ index ∧
      ∀ position, first ≤ position → position ≤ index → inside position := by
    refine ⟨index, Nat.le_refl _, ?_⟩
    intro position lower upper
    rw [Nat.le_antisymm upper lower]
    exact member
  have endSpec := Nat.find_spec ends
  have startSpec := Nat.find_spec starts
  refine ⟨Nat.find starts, Nat.find ends, ⟨?_, ?_, ?_, endSpec.2⟩, startSpec.1, endSpec.1⟩
  · omega
  · intro position lower upper
    by_cases early : position ≤ index
    · exact startSpec.2 position lower early
    · by_contra outside
      exact Nat.find_min ends upper ⟨by omega, outside⟩
  · intro position next inner
    refine Nat.find_min starts (m := position) (by omega) ⟨by omega, ?_⟩
    intro other lower upper
    rcases Nat.eq_or_lt_of_le lower with same | later
    · rw [← same]
      exact inner
    · exact startSpec.2 other (by omega) upper

/-- Runs move together with their positions. -/
theorem isMaximalRun_succ {inside next : Nat → Prop}
    (moved : ∀ index, inside (index + 1) ↔ next index) {first last : Nat} :
    IsMaximalRun inside (first + 1) (last + 1) ↔
      IsMaximalRun next first last ∧ (first = 0 → ¬ inside 0) := by
  constructor
  · intro run
    refine ⟨⟨?_, ?_, ?_, ?_⟩, ?_⟩
    · exact Nat.lt_of_succ_lt_succ run.nonempty
    · intro index lower upper
      exact (moved index).mp (run.filled _ (by omega) (by omega))
    · intro index next inner
      exact run.left (index + 1) (by omega) ((moved index).mpr inner)
    · intro inner
      exact run.right ((moved last).mpr inner)
    · intro atStart
      exact run.left 0 (by omega)
  · intro given
    obtain ⟨run, outside⟩ := given
    refine ⟨?_, ?_, ?_, ?_⟩
    · exact Nat.succ_lt_succ run.nonempty
    · intro index lower upper
      cases index with
      | zero => omega
      | succ index => exact (moved index).mpr (run.filled index (by omega) (by omega))
    · intro index next inner
      cases index with
      | zero => exact outside (by omega) inner
      | succ index => exact run.left index (by omega) ((moved index).mp inner)
    · intro inner
      exact run.right ((moved last).mp inner)

/-- A run that does not begin at the first position is a run of the positions after it. -/
theorem exists_positive_run {inside next : Nat → Prop}
    (moved : ∀ index, inside (index + 1) ↔ next index) {holds : Nat → Nat → Prop} :
    (∃ first last, 0 < first ∧ IsMaximalRun inside first last ∧ holds first last) ↔
      ∃ first last, (IsMaximalRun next first last ∧ (first = 0 → ¬ inside 0)) ∧
        holds (first + 1) (last + 1) := by
  constructor
  · intro given
    obtain ⟨first, last, positive, run, held⟩ := given
    have after := run.nonempty
    obtain ⟨first, rfl⟩ := Nat.exists_eq_succ_of_ne_zero (Nat.ne_of_gt positive)
    obtain ⟨last, rfl⟩ : ∃ shorter, last = shorter + 1 := ⟨last - 1, by omega⟩
    exact ⟨first, last, (isMaximalRun_succ moved).mp run, held⟩
  · intro given
    obtain ⟨first, last, run, held⟩ := given
    exact ⟨first + 1, last + 1, Nat.succ_pos _, (isMaximalRun_succ moved).mpr run, held⟩

end AssetSearch.Text
