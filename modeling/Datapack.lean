import Datapack.Cli.Invocation
import Datapack.Cli.Run
import Datapack.Command.Basic
import Datapack.Definition.Basic
import Datapack.Definition.Format
import Datapack.Definition.Load
import Datapack.Disk.Basic
import Datapack.Disk.Operations
import Datapack.Document.Basic
import Datapack.Document.Dialect
import Datapack.Duration
import Datapack.Economy.Config
import Datapack.Economy.Identifiers
import Datapack.Economy.Label
import Datapack.Economy.Layout
import Datapack.Economy.Purchase
import Datapack.Economy.Record
import Datapack.Economy.Scripts
import Datapack.Economy.Stock
import Datapack.Event
import Datapack.Json.Reader
import Datapack.Json.Token
import Datapack.Json.Writer
import Datapack.Main
import Datapack.Namespace
import Datapack.Number.Binary64
import Datapack.Number.Format
import Datapack.Number.Literal
import Datapack.Number.Rounding
import Datapack.Number.Shortest
import Datapack.Pack.Layout
import Datapack.Pack.Metadata
import Datapack.Package.Basic
import Datapack.Package.Build
import Datapack.Path
import Datapack.Plugin.Basic
import Datapack.Plugin.Program
import Datapack.Position
import Datapack.Ron.Literal
import Datapack.Ron.Reader
import Datapack.Ron.Token
import Datapack.Snbt.Basic
import Datapack.Text.Combining
import Datapack.Text.Invisible
import Datapack.Text.Quoted
import Datapack.Text.Ranges
import Datapack.Toml.Reader
import Datapack.Toml.Scalar
import Datapack.Toml.Table
import Datapack.Toml.Token
import Datapack.Proofs.Disk.Place
import Datapack.Proofs.Disk.Growth
import Datapack.Proofs.Disk.Removal
import Datapack.Proofs.Disk.Reading
import Datapack.Proofs.Disk.Repetition
import Datapack.Proofs.Disk.Children
import Datapack.Proofs.Disk.Making
import Datapack.Proofs.Package.Footprint
import Datapack.Proofs.Package.Functions
import Datapack.Proofs.Package.OutputRoots
import Datapack.Proofs.Package.Writing
import Datapack.Proofs.Package.Failures
import Datapack.Proofs.Package.Atomicity
import Datapack.Proofs.Package.Containment
import Datapack.Proofs.Package.Rebuilding
import Datapack.Proofs.Package.Records
import Datapack.Proofs.Package.Registration
import Datapack.Proofs.Package.Report
import Datapack.Proofs.Text.Parts
import Datapack.Proofs.Host.Basic
import Datapack.Proofs.Host.Lemmas
import Datapack.Proofs.Host.Reader
import Datapack.Proofs.Host.Macro
import Datapack.Proofs.Economy.Resolution
import Datapack.Proofs.Economy.Identifiers
import Datapack.Proofs.Economy.Loading
import Datapack.Proofs.Economy.Shops
import Datapack.Proofs.Economy.Generators
import Datapack.Proofs.Economy.Purchasing
import Datapack.Proofs.Economy.Ownership
import Datapack.Proofs.Snbt.Decoding
import Datapack.Proofs.Economy.Reloading
import Datapack.Proofs.Economy.Neighbours
import Datapack.Proofs.Economy.Scores
import Datapack.Proofs.Economy.ScriptLines
import Datapack.Proofs.Economy.Rendering
import Datapack.Proofs.Json.Strings
import Datapack.Proofs.Economy.Messages
import Datapack.Proofs.Economy.Configuration
import Datapack.Proofs.Cli.Agreement
import Datapack.Proofs.Economy.Detection
import Datapack.Proofs.Package.Confinement
import Datapack.Proofs.Economy.Numbering
import Datapack.Proofs.Economy.Stores
import Datapack.Proofs.Number.Rounding
import Datapack.Proofs.Duration
import Datapack.Proofs.Economy.Delays
import Datapack.Proofs.Economy.Labels
import Datapack.Proofs.Definition.DataFiles
import Datapack.Proofs.Definition.Faults
import Datapack.Proofs.Definition.Loading
import Datapack.Proofs.Json.Layout
import Datapack.Proofs.Json.Documents
import Datapack.Proofs.Number.Shortest
import Datapack.Proofs.Json.Numbers
import Datapack.Proofs.Document.Reading
import Datapack.Proofs.Economy.JsonForm
import Datapack.Proofs.Pack.Metadata
