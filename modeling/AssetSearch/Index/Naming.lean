/-
This file names the indexes of a team. Each kind of entity has an index of its own.
-/

import AssetSearch.Failure
import AssetSearch.Query.Kind

namespace AssetSearch.Index

open AssetSearch.Query

/-- Names of teams consist of these characters. -/
def isTeamCharacter (character : Char) : Bool :=
  character.isAlphanum || character = '-' || character = '_'

/-- A team has a name, and it can be a part of the name of an index. -/
def checkTeam (teamId : String) : Except Failure Unit :=
  if teamId.isEmpty then .error (.validation "team_id" "must not be empty")
  else if teamId.toList.all isTeamCharacter then .ok ()
  else
    .error (.validation "team_id"
      ("'" ++ teamId ++ "' may only contain letters, digits, '-' and '_'"))

/-- All names of indexes begin with the same text. -/
structure Naming where
  leading : String
  deriving DecidableEq, Repr

namespace Naming

/-- Names begin with the name of the team unless something else is asked for. -/
def default : Naming := ⟨""⟩

def ending : EntityKind → String
  | .asset => "assets"
  | .assetType => "asset-types"
  | .tag => "tags"

def indexName (naming : Naming) (teamId : String) (kind : EntityKind) : String :=
  naming.leading ++ teamId ++ "-" ++ ending kind

/-- Only valid teams have indexes. -/
def indexOf (naming : Naming) (teamId : String) (kind : EntityKind) : Except Failure String :=
  (checkTeam teamId).map fun _ => naming.indexName teamId kind

/-- These are the indexes of a team with their kinds. -/
def teamIndexes (naming : Naming) (teamId : String) :
    Except Failure (List (EntityKind × String)) :=
  (checkTeam teamId).map fun _ =>
    EntityKind.all.map fun kind => (kind, naming.indexName teamId kind)

end Naming

end AssetSearch.Index
