import Fixture.Folder.Basic

/-!
# Replacing files

A file is replaced in two moves. An empty draft is made beside it under a name that is not in
use; when all that belongs into it is there, the draft is moved to the name of the file. If
anything goes wrong before that the draft is taken away, and the tree is what it was. The
draft cannot be made if the directory that the file belongs to is not there, or if the full
path of the draft is too long. It cannot be moved to the name of a directory, to a name that
only a directory can have, or to a path that does not end in a name at all.
-/

namespace Fixture

structure Draft where
  place : Place
  name : String
deriving DecidableEq, Repr

def Draft.key (draft : Draft) : String :=
  Folder.nameOf (draft.place ++ [draft.name])

namespace Folder

/-- Steps without those at the end that stay where they are. -/
def settled (steps : List String) : List String :=
  (steps.reverse.dropWhile fun step => step = "" ∨ step = ".").reverse

/-- The path of the directory that the last step of a path is taken in, where a last step
that stays does not count. Before that step the path is kept as it is written. -/
def parentPath (path : String) : String :=
  match stepsOf path with
  | [] => "."
  | first :: rest =>
    match settled rest with
    | [] => "."
    | steps =>
      let parent := nameOf (first :: settled steps.dropLast)
      if parent.isEmpty then "/" else parent

def joinPath (base path : String) : String :=
  if isAbsolute path then path
  else if base.toList.getLast? = some '/' then base ++ path
  else base ++ "/" ++ path

/-- The full path of a draft for a path, under a name, if `here` is the path of the folder. -/
def draftPath (here path name : String) : String :=
  joinPath (joinPath here (parentPath path)) name

/-- Every name of a draft is as long as this one. -/
def sampleName : String := ".tmp000000"

def homePath (folder : Folder) : String :=
  "/" ++ nameOf folder.home

/-- A name longer than any name in the tree, so that it is not in use. -/
def freshName (folder : Folder) : String :=
  let longest := folder.entries.foldl (fun length entry => max length entry.1.length) 0
  ".tmp" ++ String.ofList (List.replicate longest '0')

def putFile (folder : Folder) (draft : Draft) (content : ByteArray) : Folder :=
  { folder with entries := folder.entries.put draft.key (.file content) }

/-- Make an empty draft in the directory that a path ends in. It is made under its full path,
which may be too long even if the path is not. -/
def makeDraft (folder : Folder) (path : String) : Except FileError (Draft × Folder) :=
  let parent := parentPath path
  if '\x00' ∈ parent.toList then .error .nullInName
  else if maxPath < (draftPath folder.homePath path sampleName).utf8ByteSize then
    .error .nameTooLong
  else match folder.walk (folder.origin parent) (stepsOf parent) with
    | .error error => .error error
    | .ok (.file _) => .error .notADirectory
    | .ok (.directory place) =>
      let draft : Draft := ⟨place, folder.freshName⟩
      .ok (draft, folder.putFile draft ByteArray.empty)

def dropDraft (folder : Folder) (draft : Draft) : Folder :=
  { folder with entries := folder.entries.filter fun entry => entry.1 ≠ draft.key }

/-- The last step of a path that is not empty, the steps before it, and whether a slash comes
after it. -/
def lastStep? (path : String) : Option (List String × String × Bool) :=
  let steps := (stepsOf path).reverse
  match steps.dropWhile (· = "") with
  | [] => none
  | last :: before => some (before.reverse, last, steps.head? = some "")

def lastPlace (folder : Folder) (path : String) : Except FileError (Place × String) :=
  match lastStep? path with
  | none => .error .busy
  | some (before, name, slash) =>
    match folder.walk (folder.origin path) before with
    | .error error => .error error
    | .ok (.file _) => .error .notADirectory
    | .ok (.directory place) =>
      if name = "." ∨ name = ".." then .error .busy
      else match folder.step place name with
        | .error .notFound => if slash then .error .notADirectory else .ok (place, name)
        | .error error => .error error
        | .ok (.file _) => if slash then .error .notADirectory else .ok (place, name)
        | .ok (.directory _) =>
          if slash then .error .notADirectory else .error .isADirectory

/-- The place and the name in it that a path gives to a file. A path to move something to is
checked as an argument, before it is one to follow. -/
def target (folder : Folder) (path : String) : Except FileError (Place × String) :=
  if '\x00' ∈ path.toList then .error .invalidArgument
  else match pathFault? path with
    | some fault => .error fault
    | none => folder.lastPlace path

def placeDraft (folder : Folder) (draft : Draft) (content : ByteArray) (path : String) :
    Except FileError Folder :=
  match folder.target path with
  | .error error => .error error
  | .ok (place, name) => .ok ((folder.dropDraft draft).putFile ⟨place, name⟩ content)

end Folder

end Fixture
