import Fixture.Entries
import Fixture.Text.Split

/-!
# Folders

A folder stands in a tree of files and folders. Everything in the tree has a full name, which
is written with the steps that lead to it from the top and a slash between them. A path that
begins with a slash leads from the top, and any other path from the folder, step by step: an
empty step or a single dot stays, two dots go one up, where there is nothing above the top, and
any other step has to be the name of something in the directory that was reached.
-/

namespace Fixture

inductive Entry where
  | directory
  | file (content : ByteArray)

/-- A folder in its tree: the steps that lead to it from the top, and everything in the tree by
its full name. -/
structure Folder where
  home : List String
  entries : Entries Entry

/-- What the system says when a path or what it leads to is not as it should be. A tree that is
only held in memory never has anything else to say. -/
inductive FileError where
  | notFound
  | notADirectory
  | isADirectory
  | busy
  | nameTooLong
  | nullInName
  | invalidArgument
  | notText
  | other (message : String)
deriving DecidableEq, Repr

def FileError.message : FileError → String
  | .notFound => "No such file or directory (os error 2)"
  | .notADirectory => "Not a directory (os error 20)"
  | .isADirectory => "Is a directory (os error 21)"
  | .busy => "Device or resource busy (os error 16)"
  | .nameTooLong => "File name too long (os error 36)"
  | .nullInName => "file name contained an unexpected NUL byte"
  | .invalidArgument => "Invalid argument (os error 22)"
  | .notText => "stream did not contain valid UTF-8"
  | .other message => message

/-- Where a path has led to, as the steps from the top. -/
abbrev Place := List String

inductive Node where
  | directory (place : Place)
  | file (content : ByteArray)

namespace Folder

def nameOf (steps : List String) : String :=
  "/".intercalate steps

def maxStep : Nat := 255

def maxPath : Nat := 4095

def step (folder : Folder) (place : Place) (name : String) : Except FileError Node :=
  if name = "" ∨ name = "." then .ok (.directory place)
  -- without its last step the top is the top again
  else if name = ".." then .ok (.directory place.dropLast)
  else if maxStep < name.utf8ByteSize then .error .nameTooLong
  else match Entries.get? folder.entries (nameOf (place ++ [name])) with
    | none => .error .notFound
    | some .directory => .ok (.directory (place ++ [name]))
    | some (.file content) => .ok (.file content)

/-- What steps lead to. Only a directory can be left by a step. -/
def walk (folder : Folder) : Node → List String → Except FileError Node
  | node, [] => .ok node
  | .file _, _ :: _ => .error .notADirectory
  | .directory place, name :: rest =>
    match folder.step place name with
    | .error error => .error error
    | .ok node => folder.walk node rest

def stepsOf (path : String) : List String :=
  (Text.pieces '/' path.toList).map String.ofList

def isAbsolute (path : String) : Bool :=
  path.toList.head? = some '/'

def origin (folder : Folder) (path : String) : Node :=
  .directory (if isAbsolute path then [] else folder.home)

/-- What is wrong with a path whatever it should lead to: it says nothing or is too long. -/
def pathFault? (path : String) : Option FileError :=
  if path.isEmpty then some .notFound
  else if maxPath < path.utf8ByteSize then some .nameTooLong
  else none

def follow (folder : Folder) (path : String) : Except FileError Node :=
  if '\x00' ∈ path.toList then .error .nullInName
  else match pathFault? path with
    | some fault => .error fault
    | none => folder.walk (folder.origin path) (stepsOf path)

def read (folder : Folder) (path : String) : Except FileError ByteArray :=
  match folder.follow path with
  | .error error => .error error
  | .ok (.file content) => .ok content
  | .ok (.directory _) => .error .isADirectory

end Folder

end Fixture
