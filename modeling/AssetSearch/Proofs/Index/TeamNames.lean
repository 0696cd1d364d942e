/-
This file shows which names of teams are valid, and that the name of an index tells its team and its
kind, whatever the name of the team ends with.
-/

import AssetSearch.Index.Naming
import Mathlib.Logic.Function.Basic

namespace AssetSearch.Index

open AssetSearch.Query

/-- Names of teams consist of letters, digits, hyphens and underscores. -/
structure IsTeamName (teamId : String) : Prop where
  nonempty : teamId ≠ ""
  characters : ∀ character ∈ teamId.toList,
    character.isAlphanum = true ∨ character = '-' ∨ character = '_'

section

variable {teamId : String}

theorem checkTeam_eq_ok_iff : checkTeam teamId = .ok () ↔ IsTeamName teamId := by
  unfold checkTeam
  split
  · next empty =>
      rw [String.isEmpty_iff] at empty
      exact iff_of_false nofun fun valid => valid.nonempty empty
  · next filled =>
      rw [String.isEmpty_iff] at filled
      have characters : teamId.toList.all isTeamCharacter = true ↔
          ∀ character ∈ teamId.toList,
            character.isAlphanum = true ∨ character = '-' ∨ character = '_' := by
        simp only [List.all_eq_true, isTeamCharacter, Bool.or_eq_true, decide_eq_true_eq, or_assoc]
      split
      · next all => exact iff_of_true rfl ⟨filled, characters.mp all⟩
      · next other => exact iff_of_false nofun fun valid => other (characters.mpr valid.characters)

/-- Every other name is refused in the same way. -/
theorem checkTeam_refused (invalid : ¬ IsTeamName teamId) :
    ∃ message, checkTeam teamId = .error (.validation "team_id" message) := by
  rw [← checkTeam_eq_ok_iff] at invalid
  unfold checkTeam at invalid ⊢
  split
  · exact ⟨_, rfl⟩
  · next filled =>
      rw [if_neg filled] at invalid
      split
      · next all => exact absurd (if_pos all) invalid
      · exact ⟨_, rfl⟩

end

namespace Naming

variable {naming : Naming} {teamId other : String} {kind otherKind : EntityKind}

theorem teamIndexes_refused {failure : Failure} (refused : checkTeam teamId = .error failure) :
    naming.teamIndexes teamId = .error failure := by
  rw [teamIndexes, refused]
  rfl

theorem teamIndexes_valid (valid : IsTeamName teamId) :
    naming.teamIndexes teamId =
      .ok (EntityKind.all.map fun kind => (kind, naming.indexName teamId kind)) := by
  rw [teamIndexes, checkTeam_eq_ok_iff.mpr valid]
  rfl

theorem indexOf_eq_ok_iff {index : String} :
    naming.indexOf teamId kind = .ok index ↔
      IsTeamName teamId ∧ naming.indexName teamId kind = index := by
  by_cases valid : IsTeamName teamId
  · rw [indexOf, checkTeam_eq_ok_iff.mpr valid]
    simp [Except.map, valid]
  · obtain ⟨message, refused⟩ := checkTeam_refused valid
    rw [indexOf, refused]
    simp [Except.map, valid]

/-- This is the last letter but one of the names of all indexes of a kind. -/
def kindLetter : EntityKind → Char
  | .asset => 't'
  | .assetType => 'e'
  | .tag => 'g'

theorem kindLetter_injective : Function.Injective kindLetter := by
  intro kind other
  cases kind <;> cases other <;> decide

theorem indexName_letter (naming : Naming) (teamId : String) (kind : EntityKind) :
    (naming.indexName teamId kind).toList.reverse[1]? = some (kindLetter kind) := by
  rw [indexName, String.toList_append, List.reverse_append]
  cases kind <;> rfl

/-- The kind is read off the end, and what stands before the end is the team. -/
theorem indexName_inj :
    naming.indexName teamId kind = naming.indexName other otherKind ↔
      teamId = other ∧ kind = otherKind := by
  constructor
  · intro same
    have letters : some (kindLetter kind) = some (kindLetter otherKind) := by
      rw [← indexName_letter naming teamId, same, indexName_letter]
    obtain rfl := kindLetter_injective (Option.some.inj letters)
    rw [indexName, indexName, String.append_left_inj, String.append_left_inj,
      String.append_right_inj] at same
    exact ⟨same, rfl⟩
  · rintro ⟨rfl, rfl⟩
    rfl

end Naming

end AssetSearch.Index
