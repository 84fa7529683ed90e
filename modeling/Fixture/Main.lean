import Fixture.Cli.Run

/-!
# The program

Runs a command on the files of the system. Everything that is decided is decided by the
library; here files are read, written and moved, and texts are printed.
-/

namespace Fixture.Main

open Fixture.Cli

def usageText : String :=
  "Generate synthetic JSON documents from a declarative schema

Usage:
  generate --schema PATH [--seed N] [--count N] [--output PATH] [--pretty] [--typed]
  check --schema PATH
  generators

Options:
  -s, --schema PATH  the schema file (or the variable JSONGEN_SCHEMA)
      --seed N       a seed, the same for the same documents (or JSONGEN_SEED)
  -n, --count N      how many documents are made, one in a line if more than one
  -o, --output PATH  a file to write to
      --pretty       indent the document, if it is only one
      --typed        write numbers as numbers instead of strings
  -h, --help         this text
"

/-- The number of an error of the system. Some come with a sign, which does not count. -/
def errorNumber (code : UInt32) : UInt32 :=
  min code (0 - code)

def fileError (error : IO.Error) : FileError :=
  match error with
  | .noFileOrDirectory _ _ _ => .notFound
  | .resourceBusy _ _ => .busy
  | .inappropriateType _ code _ =>
    if errorNumber code = 20 then .notADirectory
    else if errorNumber code = 21 then .isADirectory
    else .other (toString error)
  | .invalidArgument _ code _ =>
    if errorNumber code = 36 then .nameTooLong
    else if errorNumber code = 22 then .invalidArgument
    else .other (toString error)
  | _ => .other (toString error)

def attempt {α : Type} (action : IO α) : IO (Except FileError α) := do
  match ← action.toBaseIO with
  | .ok a => return .ok a
  | .error error => return .error (fileError error)

def load (path : String) : IO (Except LoadError Schema) := do
  match ← attempt (IO.FS.readBinFile path) with
  | .error cause => return .error (.unreadable cause)
  | .ok content => return Schema.ofContent content

def randomSeed : IO UInt64 := do
  let bytes ← IO.getRandomBytes 8
  return bytes.foldl (fun seed byte => seed * 256 + byte.toUInt64) 0

/-- A name for a draft: one of so many that it is hardly in use. -/
def draftName : IO String := do
  let digits := Nat.toDigits 16 ((← randomSeed).toNat % 16777216)
  return ".tmp" ++ String.ofList (List.replicate (6 - digits.length) '0' ++ digits)

/-- Make documents and put them into a file by way of a draft beside it. -/
def generateTo (path : String) (schema : Schema) (options : GenerateOptions) (seed : UInt64) :
    IO Outcome := do
  let draft := Folder.draftPath (← IO.currentDir).toString path (← draftName)
  match ← attempt (IO.FS.Handle.mk draft .writeNew) with
  | .error cause => return .ofWritingTo path (.error (.noDraft draft cause))
  | .ok handle =>
    match (options.writer seed).write schema options.count.toNat Sink.unlimited with
    | .error halt =>
      IO.FS.removeFile draft
      return .failed halt.message
    | .ok (.error error, _, _) =>
      IO.FS.removeFile draft
      return .ofWritingTo path (.error (.writing error))
    | .ok (.ok report, sink, _) =>
      match ← attempt (do handle.write sink.received; handle.flush; IO.FS.rename draft path) with
      | .ok () => return .ofWritingTo path (.ok report)
      | .error cause =>
        IO.FS.removeFile draft
        return .ofWritingTo path (.error (.notPlaced cause))

def generate (options : GenerateOptions) : IO Outcome := do
  match ← load options.schema with
  | .error error => return .notLoaded options.schema error
  | .ok schema =>
    let seed ← match options.seed with
      | some seed => pure seed
      | none => randomSeed
    match options.output with
    | some path => generateTo path schema options seed
    | none =>
      match (options.writer seed).write schema options.count.toNat Sink.unlimited with
      | .error halt => return .failed halt.message
      | .ok (result, sink, _) => return .ofWriting result sink.received

def check (path : String) : IO Outcome := do
  match ← load path with
  | .error error => return .notLoaded path error
  | .ok schema =>
    match schema.check with
    | .error halt => return .failed halt.message
    | .ok errors => return .ofCheck path schema errors

def run : Command → IO Outcome
  | .generate options => generate options
  | .check path => check path
  | .generators => return .generatorList

def environment : IO Environment := do
  let schema ← IO.getEnv "JSONGEN_SCHEMA"
  let seed ← IO.getEnv "JSONGEN_SEED"
  return fun name =>
    if name = "JSONGEN_SCHEMA" then schema
    else if name = "JSONGEN_SEED" then seed
    else none

end Fixture.Main

def main (arguments : List String) : IO UInt32 := do
  match Fixture.Cli.Command.read (← Fixture.Main.environment) arguments with
  | .error refusal =>
    match refusal with
    | .help => IO.print Fixture.Main.usageText
    | .usage => IO.eprint Fixture.Main.usageText
    return refusal.status
  | .ok command =>
    let outcome ← Fixture.Main.run command
    let output ← IO.getStdout
    output.write outcome.output
    output.flush
    IO.eprint outcome.errorText
    return outcome.status
