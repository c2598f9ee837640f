import ApiSurface.Command.Options
import ApiSurface.Files.Tree
import ApiSurface.Program.Failure
import ApiSurface.Settings.Reading
import ApiSurface.Toml.Document

/-!
# The settings of a run

Settings are read from a file and completed by the command line, whose package lists take the
place of those of the file. Without an option for it the file has a fixed name and may be missing.

Main definition: `settingsOf`.
-/
namespace ApiSurface.Program
open Command (Options)
open Files (Node)

/-- The settings file if none is named. -/
def defaultSettingsPath : String := "classdoc.toml"

/-- Read settings from what a path leads to. -/
def readSettings (path : String) (node : Node) : Except Failure Settings :=
  match node with
  | .directory _ => .error (.unreadable path)
  | .file content =>
    match content.text? with
    | none => .error (.unreadable path)
    | some text =>
      match (Toml.datumOf? text).bind (Settings.ofDatum? .toml) with
      | some settings => .ok settings
      | none => .error (.unparsable path none)

/-- The settings of the file. -/
def fileSettings (find : String → Option Node) (o : Options) : Except Failure Settings :=
  let path := o.settings.getD defaultSettingsPath
  match find path with
  | some node => readSettings path node
  | none => if o.settings.isSome then .error (.settingsNotFound path) else .ok {}

/-- A list that stands in for another unless it is empty. -/
def override (packages others : List String) : List String :=
  if packages.isEmpty then others else packages

/-- The packages of the command line in place of those of the settings. -/
def withPackages (o : Options) (scope : Scope) : Scope :=
  ⟨override o.controllers scope.controllers, override o.types scope.types,
    override o.traversal scope.traversal⟩

/-- The settings of a run, which have to name packages with endpoints. -/
def settingsOf (find : String → Option Node) (o : Options) : Except Failure Settings := do
  let settings ← fileSettings find o
  let settings := { settings with scope := withPackages o settings.scope }.normalize
  if settings.scope.controllers.isEmpty then .error .noControllers else .ok settings

end ApiSurface.Program
