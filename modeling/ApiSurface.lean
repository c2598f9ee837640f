import ApiSurface.Archive.Bits
import ApiSurface.Archive.Checksum
import ApiSurface.Archive.Directory
import ApiSurface.Archive.Inflate
import ApiSurface.BuiltIn
import ApiSurface.Bytecode.Constant
import ApiSurface.Bytecode.Instruction
import ApiSurface.Bytecode.Opcode
import ApiSurface.Calls.Frame
import ApiSurface.Calls.Step
import ApiSurface.Calls.Walk
import ApiSurface.Class.Annotation
import ApiSurface.Class.Basic
import ApiSurface.Class.Inspection
import ApiSurface.ClassFile.Bytes
import ApiSurface.ClassFile.Code
import ApiSurface.ClassFile.Container
import ApiSurface.ClassFile.Decoding
import ApiSurface.ClassFile.Pool
import ApiSurface.ClassFile.Refusal
import ApiSurface.Command.Options
import ApiSurface.Command.Reading
import ApiSurface.Command.Usage
import ApiSurface.Descriptor.Basic
import ApiSurface.Descriptor.Reading
import ApiSurface.Descriptor.Refusal
import ApiSurface.Endpoint.Basic
import ApiSurface.Endpoint.Extraction
import ApiSurface.Endpoint.Parameters
import ApiSurface.Endpoint.Status
import ApiSurface.Endpoint.Types
import ApiSurface.Fault
import ApiSurface.Files.Inventory
import ApiSurface.Files.Path
import ApiSurface.Files.Tree
import ApiSurface.Idiom.Basic
import ApiSurface.Idiom.Scan
import ApiSurface.Journal.Event
import ApiSurface.Journal.Reporting
import ApiSurface.Json.Basic
import ApiSurface.Json.Printer
import ApiSurface.Main
import ApiSurface.Number.Binary
import ApiSurface.Number.Layout
import ApiSurface.Number.Shortest
import ApiSurface.OpenApi.Assembly
import ApiSurface.OpenApi.Document
import ApiSurface.OpenApi.Entry
import ApiSurface.OpenApi.Printer
import ApiSurface.OpenApi.Request
import ApiSurface.Program.Configuration
import ApiSurface.Program.Container
import ApiSurface.Program.Failure
import ApiSurface.Program.Run
import ApiSurface.Proofs.Calls.Coverage
import ApiSurface.Proofs.Calls.Graph
import ApiSurface.Proofs.Calls.Pathless
import ApiSurface.Proofs.Calls.Paths
import ApiSurface.Proofs.Calls.Run
import ApiSurface.Proofs.Calls.Steps
import ApiSurface.Proofs.ClassFile.Assembly
import ApiSurface.Proofs.ClassFile.Bytes
import ApiSurface.Proofs.ClassFile.Encoding
import ApiSurface.Proofs.OpenApi.Assembly
import ApiSurface.Proofs.OpenApi.Entry
import ApiSurface.Proofs.OpenApi.Operation
import ApiSurface.Proofs.OpenApi.Places
import ApiSurface.Proofs.OpenApi.References
import ApiSurface.Proofs.OpenApi.Responses
import ApiSurface.Proofs.Faults
import ApiSurface.Proofs.Outcome
import ApiSurface.Proofs.Schema.Bound
import ApiSurface.Proofs.Schema.Closed
import ApiSurface.Proofs.Schema.Faults
import ApiSurface.Proofs.Schema.Growth
import ApiSurface.Proofs.Schema.Requests
import ApiSurface.Proofs.Schema.Run
import ApiSurface.Proofs.Schema.Session
import ApiSurface.Proofs.Universe.Followed
import ApiSurface.Schema.Alternatives
import ApiSurface.Schema.Basic
import ApiSurface.Schema.Bound
import ApiSurface.Schema.Catalog
import ApiSurface.Schema.Fields
import ApiSurface.Schema.Generation
import ApiSurface.Schema.Requesting
import ApiSurface.Settings.Basic
import ApiSurface.Settings.Datum
import ApiSurface.Settings.Reading
import ApiSurface.Signature.Basic
import ApiSurface.Signature.Inspection
import ApiSurface.Signature.Reading
import ApiSurface.Text.Blank
import ApiSurface.Text.LetterCase
import ApiSurface.Text.ModifiedUtf8
import ApiSurface.Text.PercentForm
import ApiSurface.Text.Printable
import ApiSurface.Text.Quoted
import ApiSurface.Text.Segments
import ApiSurface.Toml.Document
import ApiSurface.Toml.Key
import ApiSurface.Toml.Letters
import ApiSurface.Toml.Number
import ApiSurface.Toml.Quoted
import ApiSurface.Toml.Table
import ApiSurface.Toml.Value
import ApiSurface.Universe.Basic
import ApiSurface.Universe.Hierarchy
import ApiSurface.Universe.Resolution
import ApiSurface.Unrecognized
import ApiSurface.Validation.Layout
import ApiSurface.Validation.Recovery
import ApiSurface.Validation.Rule
import ApiSurface.Validation.Shape
import ApiSurface.Proofs.Schema.Order
import ApiSurface.Proofs.Schema.Names
import ApiSurface.Proofs.Schema.Positions
import ApiSurface.Proofs.Markers.Idioms
import ApiSurface.Proofs.Markers.Schemas
import ApiSurface.Proofs.Markers.Alike
import ApiSurface.Proofs.Markers.Steps
import ApiSurface.Proofs.Markers.Analysis
import ApiSurface.Proofs.Universe.Loading
import ApiSurface.Proofs.Universe.Nearest
import ApiSurface.Proofs.Universe.Superclasses
import ApiSurface.Proofs.Endpoint.Paths
import ApiSurface.Proofs.Endpoint.Extraction
import ApiSurface.Proofs.OpenApi.Operations
import ApiSurface.Proofs.OpenApi.Components
import ApiSurface.Proofs.Calls.Depth
import ApiSurface.Proofs.Universe.Ascent
import ApiSurface.Proofs.Idiom.Search
import ApiSurface.Proofs.Schema.Termination
import ApiSurface.Proofs.Validation.Inversion
import ApiSurface.Proofs.ClassFile.Tiling
import ApiSurface.Proofs.Calls.Receivers
import ApiSurface.Proofs.Calls.Dispatch
import ApiSurface.Proofs.Descriptor.Reading
import ApiSurface.Proofs.Schema.Mapping
import ApiSurface.Proofs.Schema.Discriminators
import ApiSurface.Proofs.Descriptor.Methods
import ApiSurface.Proofs.Signature.Written
import ApiSurface.Proofs.Signature.Reading
import ApiSurface.Proofs.Signature.Erased
import ApiSurface.Proofs.ClassFile.Faults
import ApiSurface.Proofs.ClassFile.Placement
import ApiSurface.Proofs.Endpoint.Sources
import ApiSurface.Proofs.Endpoint.Parameters
import ApiSurface.Proofs.Calls.Thrown
import ApiSurface.Proofs.Validation.Exclusion
import ApiSurface.Proofs.Universe.SuperChain
import ApiSurface.Proofs.Text.Segments
import ApiSurface.Proofs.Files.Names
import ApiSurface.Proofs.Files.Inventory
import ApiSurface.Proofs.Settings.Scope
import ApiSurface.Proofs.Settings.InternalName
import ApiSurface.Proofs.Settings.Normal
import ApiSurface.Proofs.Endpoint.Joining
import ApiSurface.Proofs.Text.PercentForm
