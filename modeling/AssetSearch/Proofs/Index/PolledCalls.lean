/-
This file says when calls that are waited for together can be made one after the other. A group of
calls is polled in rounds. If every call is answered when it is polled for the first time, the first
round is the last one, and it visits the calls in order up to the first failure.
-/

import AssetSearch.Index.Service

namespace AssetSearch.Index

/-- A call of a group is still waited for, or it has succeeded. -/
inductive Joined (Item Result : Type) where
  | waiting (item : Item)
  | done (result : Result)
  deriving DecidableEq, Repr

section

variable {Effect : Type → Type} [Monad Effect] {Item Result : Type}

/-- A round polls every call that is waited for, in order, and the first failure ends it. A call
without an answer is waited for in the next round. -/
def pollRound (poll : Item → Effect (Option (Except Failure Result))) :
    List (Joined Item Result) → Effect (Except Failure (List (Joined Item Result)))
  | [] => return .ok []
  | .done result :: later =>
      return (← pollRound poll later).map (.done result :: ·)
  | .waiting item :: later => do
      match ← poll item with
      | some (.error failure) => return .error failure
      | some (.ok result) => return (← pollRound poll later).map (.done result :: ·)
      | none => return (← pollRound poll later).map (.waiting item :: ·)

/-- Nothing is left to wait for after the first round. -/
theorem pollRound_ready [LawfulMonad Effect] {poll : Item → Effect (Option (Except Failure Result))}
    {visit : Item → Effect (Except Failure Result)}
    (ready : ∀ item, poll item = some <$> visit item) (items : List Item) :
    pollRound poll (items.map .waiting) =
      Except.map (List.map .done) <$> visitAll visit items := by
  induction items with
  | nil => simp [pollRound, visitAll, Except.map]
  | cons item later inductionHypothesis =>
      rw [List.map_cons, pollRound, ready, inductionHypothesis, visitAll]
      simp only [bind_map_left, map_bind]
      congr 1
      funext answer
      cases answer with
      | error failure => simp [Except.map]
      | ok result =>
          simp only [map_bind]
          congr 1
          funext others
          cases others <;> simp [Except.map]

end

end AssetSearch.Index
