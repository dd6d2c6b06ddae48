import BlockStage.Json

/-!
# The project file

The archive is unpacked in the working directory, and the unpacked files are removed at the end.
-/

namespace BlockStage

/-- What lies under the name of the project file. -/
inductive Archive where
  | missing
  | broken
  | withoutProject
  /-- An archive with a description, and perhaps with a folder of its own. -/
  | holding (description : Except Fault Value) (folder : Bool)

namespace Archive

/-- The names in the working directory. -/
def ownName : String := "project.sb3"

def unpacked : List String := ["asset.txt", "project.json"]

def folderName : String := "sounds"

/-- `json.loads` of the description. -/
def description? : Archive → Except Fault Value
  | .missing => .error .fileNotFound
  | .broken => .error .badArchive
  | .withoutProject => .error .fileNotFound
  | .holding description _ => description

/-- The names that are left at the end. A run for debugging keeps what was unpacked; a folder is not removed. -/
def leftOver (archive : Archive) (debug : Bool) : List String :=
  let kept := if debug then unpacked else []
  match archive with
  | .holding _ true => kept ++ [ownName, folderName]
  | _ => kept ++ [ownName]

end Archive

end BlockStage
