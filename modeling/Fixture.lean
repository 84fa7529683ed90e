import Fixture.Batch
import Fixture.Binary64.Arithmetic
import Fixture.Binary64.Basic
import Fixture.Cli.Arguments
import Fixture.Cli.Command
import Fixture.Cli.Run
import Fixture.Decimal.Basic
import Fixture.Decimal.Layout
import Fixture.Decimal.Read
import Fixture.Decimal.Shortest
import Fixture.Document
import Fixture.Entries
import Fixture.Folder.Basic
import Fixture.Folder.Replace
import Fixture.Generator
import Fixture.Invocation
import Fixture.Json.Basic
import Fixture.Json.Fault
import Fixture.Json.Lexeme
import Fixture.Json.Number
import Fixture.Json.Quoted
import Fixture.Json.Read
import Fixture.Json.Write
import Fixture.Main
import Fixture.Output.Rate
import Fixture.Output.Sink
import Fixture.Output.ToPath
import Fixture.Output.Writer
import Fixture.People.FirstNames
import Fixture.People.LastNames
import Fixture.Producer
import Fixture.Random.ChaCha
import Fixture.Random.Script
import Fixture.Random.Source
import Fixture.Random.Uniform
import Fixture.Recipe
import Fixture.Schema
import Fixture.SchemaFile
import Fixture.Text.Blank
import Fixture.Text.Integer
import Fixture.Text.Position
import Fixture.Text.Quoted
import Fixture.Text.Ranges
import Fixture.Text.Split
import Fixture.Text.Unprintable
import Fixture.Value
import Fixture.Proofs.Random.Yields
import Fixture.Proofs.Random.Horizon
import Fixture.Proofs.Recipe.Basic
import Fixture.Proofs.Recipe.Sound
import Fixture.Proofs.Random.Steady
import Fixture.Proofs.Producer.Errors
import Fixture.Proofs.Producer.Agreement
import Fixture.Proofs.Output.Lines
import Fixture.Proofs.Json.Objects
import Fixture.Proofs.Json.OneLine
import Fixture.Proofs.Schema.Reachable
import Fixture.Proofs.Text.Lines
import Fixture.Proofs.Output.ReadBack
import Fixture.Proofs.Folder.Paths
import Fixture.Proofs.Folder.Target
import Fixture.Proofs.Folder.Draft
import Fixture.Proofs.Output.Replacement
import Fixture.Proofs.Invocation.Grammar
import Fixture.Proofs.Recipe.Mistakes
import Fixture.Proofs.Invocation.Answers
import Fixture.Proofs.Producer.Batches
import Fixture.Proofs.Output.Limited
import Fixture.Proofs.Schema.OrderedMap
import Fixture.Proofs.Json.Tokens
import Fixture.Proofs.Schema.Loading
import Fixture.Proofs.Output.History
import Fixture.Proofs.Binary64.Monotone
import Fixture.Proofs.Recipe.Finite
import Fixture.Proofs.Producer.Types
import Fixture.Proofs.Json.Accepted
import Fixture.Proofs.Random.Fair
import Fixture.Proofs.Recipe.WholeNumbers
import Fixture.Proofs.Producer.BadFields
import Fixture.Proofs.Producer.Concatenation
import Fixture.Proofs.Folder.Writable
import Fixture.Proofs.Cli.Runs
import Fixture.Proofs.Output.Cuts
import Fixture.Proofs.Binary64.Rounded
import Fixture.Proofs.Recipe.Ranges
import Fixture.Proofs.Recipe.Items
import Fixture.Proofs.Invocation.Slices
import Fixture.Proofs.Producer.Aborts
import Fixture.Proofs.Invocation.Diagnosis
import Fixture.Proofs.Document.Members
import Fixture.Proofs.Recipe.FirstAccepted
import Fixture.Proofs.Recipe.Bounds
