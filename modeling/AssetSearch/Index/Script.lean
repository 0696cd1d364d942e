/-
This file holds an index service that follows a script: every call gets the next answer of a queue,
and an answer of its own kind when the queue is empty. The calls are written down.
-/

import AssetSearch.Index.Service

namespace AssetSearch.Index

open AssetSearch.Json
open AssetSearch.Query

inductive Call where
  | listTasks (indexes : List String) (limit : Nat)
  | updateAttributes (index : String) (attributes : List String)
  | search (index : String) (query : IndexQuery) (limit : Nat)
  deriving DecidableEq, Repr

/-- The answers are documents, which each call reads in its own way. -/
structure Script where
  answers : List (Except Failure Document)
  calls : List Call

namespace Script

def empty : Script := ⟨[], []⟩

def enqueue (script : Script) (answers : List (Except Failure Document)) : Script :=
  { script with answers := script.answers ++ answers }

/-- A document that the call cannot read is a failure. -/
def read {Content : Type} (decoder : Decoder Content) :
    Except Failure Document → Except Failure Content
  | .error failure => .error failure
  | .ok document =>
      match decoder document with
      | some content => .ok content
      | none => .error (.format .reader)

/-- The call is written down, and the first answer of the queue is used up. -/
def respond {Content : Type} (script : Script) (call : Call) (default : Content)
    (decoder : Decoder Content) : Except Failure Content × Script :=
  let calls := script.calls ++ [call]
  match script.answers with
  | [] => (.ok default, ⟨[], calls⟩)
  | answer :: later => (read decoder answer, ⟨later, calls⟩)

/-- Without a script the service accepts every update as the first task of all. -/
def acceptedUpdate (index : String) : TaskSummary :=
  ⟨0, some index, .enqueued, .settingsUpdate, Time.Instant.epoch⟩

def service : Service (StateM Script) where
  listTasks indexes limit script :=
    script.respond (.listTasks indexes limit) [] (Decoder.list IndexTask.decode)
  updateAttributes index attributes script :=
    script.respond (.updateAttributes index attributes) (acceptedUpdate index) TaskSummary.decode
  search index query limit script :=
    script.respond (.search index query limit) SearchResponse.empty SearchResponse.decode

end Script

end AssetSearch.Index
