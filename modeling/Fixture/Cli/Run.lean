import Fixture.Cli.Command
import Fixture.Output.ToPath
import Fixture.SchemaFile

/-!
# Running commands

A command works in a folder, has output, and fails with a message or does not. A message
names what was tried and then what went wrong, down to its cause.
-/

namespace Fixture.Cli

structure Outcome where
  failure : Option String
  output : ByteArray

namespace Outcome

def failed (message : String) : Outcome :=
  ⟨some message, ByteArray.empty⟩

def silent : Outcome :=
  ⟨none, ByteArray.empty⟩

def errorText (outcome : Outcome) : String :=
  match outcome.failure with
  | some message => "Error: " ++ message ++ "\n"
  | none => ""

def status (outcome : Outcome) : UInt32 :=
  if outcome.failure.isSome then 1 else 0

def notLoaded (path : String) (error : LoadError) : Outcome :=
  failed ("Failed to load schema file: " ++ Text.quoted path ++ ": " ++ error.trace)

def ofWriting (result : Except WriteError Report) (output : ByteArray) : Outcome :=
  match result with
  | .error error => ⟨some ("Failed to generate documents: " ++ error.message), output⟩
  | .ok _ => ⟨none, output⟩

def ofWritingTo (path : String) : Except PathError Report → Outcome
  | .error error => failed ("Failed to generate into " ++ path ++ ": " ++ error.message)
  | .ok _ => silent

def ofCheck (path : String) (schema : Schema) : List FieldError → Outcome
  | [] =>
    let line := Text.quoted path ++ ": all " ++ toString schema.size ++ " fields OK\n"
    ⟨none, line.toUTF8⟩
  | errors =>
    let lines := String.join (errors.map fun error => error.message ++ "\n")
    let failure := toString errors.length ++ " of " ++ toString schema.size ++
      " fields in " ++ Text.quoted path ++ " failed"
    ⟨some failure, lines.toUTF8⟩

def generatorList : Outcome :=
  ⟨none, (String.join (Generator.all.map fun generator => generator.name ++ "\n")).toUTF8⟩

end Outcome

def GenerateOptions.writer (options : GenerateOptions) (seed : UInt64) : Writer ChaCha :=
  ⟨Producer.ofSeed seed, options.encoding, options.pretty⟩

def generate (folder : Folder) (options : GenerateOptions) (seed : UInt64) :
    Except Halt (Outcome × Folder) :=
  match Schema.ofFile folder options.schema with
  | .error error => .ok (.notLoaded options.schema error, folder)
  | .ok schema =>
    match options.output with
    | none =>
      match (options.writer seed).write schema options.count.toNat Sink.unlimited with
      | .error halt => .error halt
      | .ok (result, sink, _) => .ok (.ofWriting result sink.received, folder)
    | some path =>
      match (options.writer seed).writeToPath schema options.count.toNat folder path with
      | .error halt => .error halt
      | .ok (result, folder, _) => .ok (.ofWritingTo path result, folder)

def check (folder : Folder) (path : String) : Except Halt Outcome :=
  match Schema.ofFile folder path with
  | .error error => .ok (.notLoaded path error)
  | .ok schema =>
    match schema.check with
    | .error halt => .error halt
    | .ok errors => .ok (.ofCheck path schema errors)

/-- Run a command in a folder. A seed that is not asked for is `anySeed`. -/
def Command.run (folder : Folder) (anySeed : UInt64) :
    Command → Except Halt (Outcome × Folder)
  | .generate options => Cli.generate folder options (options.seed.getD anySeed)
  | .check path =>
    match Cli.check folder path with
    | .error halt => .error halt
    | .ok outcome => .ok (outcome, folder)
  | .generators => .ok (.generatorList, folder)

def Refusal.status : Refusal → UInt32
  | .usage => 2
  | .help => 0

end Fixture.Cli
