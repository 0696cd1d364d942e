/-
This file says at which paths a catalog can be opened, when some of the files on the way are known
to be plain files.
-/

import AssetSearch.Catalog.Store

namespace AssetSearch.Catalog

/-- Slashes separate the names of a path. Empty names and single dots are skipped. -/
def pathNames (path : String) : List String :=
  (path.splitOn "/").filter fun name => !name.isEmpty && name != "."

/-- Slashes at the end are no part of a path, nor are names of a single dot. -/
def withoutEnd : (reversed : List Char) → List Char
  | '/' :: rest => withoutEnd rest
  | '.' :: '/' :: rest => withoutEnd rest
  | reversed => reversed

/-- The directory of a path is everything before its last name. -/
def directoryText (path : String) : String :=
  let lastDropped := (withoutEnd path.toList.reverse).dropWhile (· != '/')
  String.ofList (withoutEnd lastDropped).reverse

/-- A path leads through another one that begins with the same names. -/
def leadsThrough (plainFile directory : List String) : Bool :=
  plainFile.isPrefixOf directory

/-- A directory cannot be made below a plain file, and a file cannot be opened in one. -/
def checkLocation (plainFiles : List String) (path : String) : Except Failure Unit :=
  let directory := (pathNames path).dropLast
  let obstacles := (plainFiles.map pathNames).filter fun file => leadsThrough file directory
  if obstacles.any (· != directory) then
    .error (.database (.described
      ("Failed to create directory " ++ directoryText path ++
        ": Not a directory (os error 20)")))
  else if obstacles.isEmpty then .ok ()
  else .error (.database .engine)

end AssetSearch.Catalog
