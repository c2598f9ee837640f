import ApiSurface.Command.Reading
import ApiSurface.Endpoint.Extraction
import ApiSurface.Files.Inventory
import ApiSurface.OpenApi.Assembly
import ApiSurface.OpenApi.Printer
import ApiSurface.Program.Configuration
import ApiSurface.Program.Container

/-!
# Runs

A run looks at its input, analyses the classes it finds there and publishes the document. What it
sees of the file system is a function from paths, so that a run can be carried out on any tree.

Main definitions: `universeOf`, `documentOf`, `publish`, `Execution`, `execute`.
-/
namespace ApiSurface.Program
open Command (Options)
open Files (Inventory Node)

/-- The classes of an inventory as a universe. -/
def universeOf (i : Inventory) (scope : Scope) : Stage Universe := do
  let u ← Stage.ofExcept
    (Universe.ofRecords (i.units.map fun unit => ClassRecord.ofBytes unit.name unit.data) scope)
  let size (subset : Subset) : Nat := (u.recordsIn subset).length
  Stage.report (.classified u.size (size .controllers) (size .types) (size .traversal))
  pure u

/-- The document of the classes below a path. -/
def analyze (path : String) (node : Node) (settings : Settings) : Stage OpenApi.Document := do
  let inventory ← Files.inventory path (some node)
  Stage.report (.scanned inventory.units.length inventory.archives)
  let u ← universeOf inventory settings.scope
  let endpoints ← Stage.ofReporting (Endpoint.extract u settings)
  Stage.report (.extracted endpoints.length)
  Stage.ofReporting (OpenApi.assemble u settings endpoints)

/-- The document of a run. -/
def documentOf (find : String → Option Node) (o : Options) : Stage OpenApi.Document := do
  let path := o.input.getD ""
  match find path with
  | none => throw (.inputNotFound path)
  | some node =>
    let settings ← (settingsOf find o : Except Failure Settings)
    analyze path node settings

/-- The text that is published. -/
def textOf (document : OpenApi.Document) : String := document.toJson.pretty ++ "\n"

/-- The file that a document is written to; none for the standard output, which a hyphen stands
for. -/
def outputFile? (o : Options) : Option String :=
  o.output.filter fun path =>
    path.toList.head? ≠ some '-' || Files.pathNames path ≠ ["-"]

/-- What is reported once a document has been published. -/
def closing (o : Options) (document : OpenApi.Document) : List Event :=
  if o.timing then [.timing document.paths.size document.schemas.size] else []

/-- What a run leaves behind. -/
structure Execution where
  /-- What it wrote to the standard output. -/
  output : String
  /-- The files after the run. -/
  root : Node
  events : List Event
  failure : Option Failure

/-- Publish a document in a tree. -/
def publish (root : Node) (o : Options) (events : List Event) (document : OpenApi.Document) :
    Execution :=
  let text := textOf document
  let done := events ++ closing o document
  match outputFile? o with
  | none => ⟨text, root, done, none⟩
  | some path =>
    match root.put? path text.toUTF8.toList with
    | some root => ⟨"", root, done, none⟩
    | none => ⟨"", root, events, some (.unopened path)⟩

/-- Carry out a run in the root of a tree. -/
def execute (root : Node) (o : Options) : Execution :=
  match (documentOf root.at? o).run.run [.started] with
  | (.ok document, events) => publish root o events document
  | (.error failure, events) => ⟨"", root, events, some failure⟩

/-- How much a run reports: what the environment asks for, or else less if the user wants quiet. -/
def verbosity (o : Options) (requested : Option String) : Verbosity :=
  (requested.bind Verbosity.ofName?).getD (if o.quiet then .upTo .warn else .upTo .info)

/-- The lines of a log. -/
def logLines (v : Verbosity) (elapsed : String) (events : List Event) : List String :=
  (events.filter fun e => v.admits e.level).map (Event.line elapsed)

/-- What the user is told who asks for the version. -/
def versionText : String := "classdoc 0.1.0"

end ApiSurface.Program
