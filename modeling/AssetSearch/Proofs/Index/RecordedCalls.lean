/-
This file writes down the calls to an index service whose answers are given in advance. Items that
are visited in order are called up to the first failure, and the results of all of them are returned
or none.
-/

import AssetSearch.Index.Script

namespace AssetSearch.Index

open AssetSearch.Query

/-- An action that is recorded adds its calls to those before it. -/
abbrev Recorded := StateM (List Call)

/-- The number of a call, counted from zero, decides its answer. -/
structure Answers where
  tasks : Nat → Except Failure (List IndexTask)
  updates : Nat → Except Failure TaskSummary
  hits : Nat → Except Failure SearchResponse

/-- Every call gets the next answer. -/
def recordCall {Content : Type} (answers : Nat → Except Failure Content) (call : Call) :
    Recorded (Except Failure Content) := fun calls =>
  (answers calls.length, calls ++ [call])

def Answers.service (answers : Answers) : Service Recorded where
  listTasks indexes limit := recordCall answers.tasks (.listTasks indexes limit)
  updateAttributes index attributes :=
    recordCall answers.updates (.updateAttributes index attributes)
  search index query limit := recordCall answers.hits (.search index query limit)

section

variable {Item Result : Type} (answer : Nat → Item → Except Failure Result)

/-- The items succeed with these results. The call for the first item has the given number. -/
inductive AllSucceed : (number : Nat) → List Item → List Result → Prop
  | nil {number : Nat} : AllSucceed number [] []
  | cons {number : Nat} {item : Item} {result : Result} {items : List Item}
      {results : List Result} (first : answer number item = .ok result)
      (later : AllSucceed (number + 1) items results) :
      AllSucceed number (item :: items) (result :: results)

/-- All items are called, once each and in order, and their results are returned. Or the first one
that fails is the last one to be called, and its failure alone is returned. -/
inductive JoinsAll (call : Item → Call) (items : List Item) (earlier : List Call) :
    Except Failure (List Result) × List Call → Prop
  | completed {results : List Result} (succeeded : AllSucceed answer earlier.length items results) :
      JoinsAll call items earlier (.ok results, earlier ++ items.map call)
  | abandoned {before after : List Item} {item : Item} {results : List Result} {failure : Failure}
      (split : items = before ++ item :: after)
      (succeeded : AllSucceed answer earlier.length before results)
      (failed : answer (earlier.length + before.length) item = .error failure) :
      JoinsAll call items earlier (.error failure, earlier ++ (before ++ [item]).map call)

end

/-- A result stands before those of the later items, unless one of them fails. -/
def consResult {State Result : Type} (result : Result) :
    Except Failure (List Result) × State → Except Failure (List Result) × State
  | (.error failure, state) => (.error failure, state)
  | (.ok results, state) => (.ok (result :: results), state)

section

variable {Item Result : Type} {answer : Nat → Item → Except Failure Result} {call : Item → Call}
  {visit : Item → Recorded (Except Failure Result)} {items : List Item} {earlier : List Call}

theorem JoinsAll.cons {item : Item} {result : Result}
    (first : answer earlier.length item = .ok result)
    {run : Except Failure (List Result) × List Call}
    (later : JoinsAll answer call items (earlier ++ [call item]) run) :
    JoinsAll answer call (item :: items) earlier (consResult result run) := by
  cases later with
  | completed succeeded =>
      rw [List.length_append] at succeeded
      rw [consResult, List.append_assoc]
      exact .completed (.cons first succeeded)
  | abandoned split succeeded failed =>
      rw [List.length_append] at succeeded failed
      rw [consResult, List.append_assoc]
      refine .abandoned (by rw [split, List.cons_append]) (.cons first succeeded) ?_
      rw [List.length_cons, ← Nat.add_assoc, Nat.add_right_comm]
      exact failed

end

/-- An action adds only such calls to those before it. -/
def MakesOnly {Content : Type} (allowed : Call → Prop) (action : Recorded Content) : Prop :=
  ∀ earlier, ∃ made, (action earlier).2 = earlier ++ made ∧ ∀ call ∈ made, allowed call

namespace MakesOnly

variable {Content Next : Type} {allowed : Call → Prop}

theorem pure (content : Content) : MakesOnly allowed (Pure.pure content) := by
  intro earlier
  exact ⟨[], (List.append_nil earlier).symm, nofun⟩

/-- Only what the first action can return matters for the next one. -/
theorem bind {action : Recorded Content} {next : Content → Recorded Next}
    (first : MakesOnly allowed action)
    (later : ∀ earlier, MakesOnly allowed (next (action earlier).1)) :
    MakesOnly allowed (action >>= next) := by
  intro earlier
  obtain ⟨made, calls, firstAllowed⟩ := first earlier
  obtain ⟨others, all, laterAllowed⟩ := later earlier (action earlier).2
  refine ⟨made ++ others, ?_, ?_⟩
  · rw [← List.append_assoc, ← calls]
    exact all
  · intro call inside
    rcases List.mem_append.mp inside with isFirst | isLater
    · exact firstAllowed call isFirst
    · exact laterAllowed call isLater

theorem recordCall {answers : Nat → Except Failure Content} {call : Call} (given : allowed call) :
    MakesOnly allowed (Index.recordCall answers call) := by
  intro earlier
  refine ⟨[call], rfl, ?_⟩
  intro other inside
  rw [List.mem_singleton.mp inside]
  exact given

theorem visitAll {Item Result : Type} {visit : Item → Recorded (Except Failure Result)}
    {items : List Item} (visits : ∀ item ∈ items, MakesOnly allowed (visit item)) :
    MakesOnly allowed (Index.visitAll visit items) := by
  induction items with
  | nil => exact pure _
  | cons item later inductionHypothesis =>
      have others := inductionHypothesis fun other inside =>
        visits other (List.mem_cons_of_mem item inside)
      apply bind (visits item List.mem_cons_self)
      intro earlier
      cases (visit item earlier).1 with
      | error failure => exact pure _
      | ok result =>
          apply bind others
          intro earlier
          cases (Index.visitAll visit later earlier).1 with
          | error failure => exact pure _
          | ok results => exact pure _

end MakesOnly

end AssetSearch.Index
