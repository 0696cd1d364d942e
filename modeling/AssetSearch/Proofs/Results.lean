/-
This file takes results apart that are put together from the results of several steps. A step that
fails leaves no result of the whole.
-/

namespace AssetSearch

theorem bind_isOk {Fault Source Target : Type} {result : Except Fault Source}
    {next : Source → Except Fault Target} {target : Target}
    (isOk : (result >>= next) = .ok target) :
    ∃ source, result = .ok source ∧ next source = .ok target := by
  cases result with
  | error fault => cases isOk
  | ok source => exact ⟨source, rfl, isOk⟩

/-- All of the values are read, or one of them is not and there is no result. -/
theorem mapM_isOk_iff {Fault Source Target : Type} (read : Source → Except Fault Target)
    (sources : List Source) :
    (∃ targets, sources.mapM read = .ok targets) ↔
      ∀ source ∈ sources, ∃ target, read source = .ok target := by
  induction sources with
  | nil => exact ⟨fun _ => by simp, fun _ => ⟨[], rfl⟩⟩
  | cons first later inductionHypothesis =>
      rw [List.mapM_cons, List.forall_mem_cons, ← inductionHypothesis]
      constructor
      · intro given
        obtain ⟨targets, accepted⟩ := given
        obtain ⟨target, firstRead, accepted⟩ := bind_isOk accepted
        obtain ⟨others, laterRead, -⟩ := bind_isOk accepted
        exact ⟨⟨target, firstRead⟩, ⟨others, laterRead⟩⟩
      · intro given
        obtain ⟨⟨target, firstRead⟩, ⟨others, laterRead⟩⟩ := given
        refine ⟨target :: others, ?_⟩
        rw [firstRead, laterRead]
        rfl

end AssetSearch
