import ApiSurface.Archive.Directory
import ApiSurface.Command.Usage
import ApiSurface.Program.Run

/-!
# The command line program

The program loads what its options name, carries out the run and writes down what it leaves
behind. Everything else is decided by `Program.documentOf` and its parts.
-/
namespace ApiSurface.Main
open Command (Options Refusal)
open Files (Node)
open Program (Failure)

/-- The variable of the environment that says how much is reported. -/
def verbosityVariable : String := "CLASSDOC_LOG"

/-- The content of a file is of use to a run. -/
def isWanted (name : String) : Bool :=
  (Files.extension? name).any fun extension => extension = "class" || extension = "jar"

/-- Load the entries of a directory; files of no use are loaded without their content. -/
partial def loadEntries (path : String) : IO (List (String × Node)) := do
  let directory := (← IO.currentDir) / path
  let entries ← directory.readDir
  entries.toList.mapM fun entry => do
    let below := Files.below path entry.fileName
    if ← entry.path.isDir then
      return (entry.fileName, Node.directory (← loadEntries below))
    else if isWanted entry.fileName then
      let data ← IO.FS.readBinFile entry.path
      return (entry.fileName, Node.file (Archive.contentOf entry.fileName data))
    else return (entry.fileName, Node.file (.bytes []))

/-- Load what a path leads to. -/
def load (path : String) : IO (Option Node) := do
  let place := (← IO.currentDir) / path
  if ← place.isDir then return some (.directory (← loadEntries path))
  else if ← place.pathExists then
    let data ← IO.FS.readBinFile place
    return some (.file (Archive.contentOf path data))
  else return none

/-- Load the settings file; a directory in its place is not looked into. -/
def loadSettings (path : String) : IO (Option Node) := do
  let place := (← IO.currentDir) / path
  if ← place.isDir then return some (.directory []) else load path

/-- Tell the user why a run failed. -/
def fail (failure : Failure) : IO UInt32 := do
  IO.eprintln ("Error: " ++ failure.message)
  match failure.fault? with
  | some fault =>
    if fault.message ≠ failure.message then IO.eprintln ("\nCaused by:\n    " ++ fault.message)
  | none => pure ()
  return 1

/-- Tell the user why a command line is not carried out. -/
def refuse : Refusal → IO UInt32
  | .help => do
    IO.println Command.helpText
    return 0
  | .version => do
    IO.println Program.versionText
    return 0
  | refusal => do
    IO.eprintln ("error: " ++ refusal.message ++ "\n\n" ++ Command.usageText)
    return 2

/-- Write a document; `none` if its file cannot be written. -/
def writeDocument (o : Options) (text : String) : IO (Option Failure) := do
  match Program.outputFile? o with
  | none => do
    IO.print text
    return none
  | some path => do
    try
      IO.FS.writeFile ((← IO.currentDir) / path) text
      return none
    catch _ => return some (.unopened path)

/-- Carry out the run that a command line asks for. -/
def runWith (o : Options) : IO UInt32 := do
  let verbosity := Program.verbosity o (← IO.getEnv verbosityVariable)
  let begun ← IO.monoMsNow
  let log (events : List Event) : IO Unit := do
    let elapsed := (← IO.monoMsNow) - begun
    for line in Program.logLines verbosity (toString elapsed) events do IO.eprintln line
  let inputPath := o.input.getD ""
  let settingsPath := o.settings.getD Program.defaultSettingsPath
  let settings ← loadSettings settingsPath
  let input ← load inputPath
  let find (path : String) : Option Node :=
    if path = inputPath then input else if path = settingsPath then settings else none
  let (result, events) := (Program.documentOf find o).run.run [.started]
  log events
  match result with
  | .error failure => fail failure
  | .ok document => do
    match ← writeDocument o (Program.textOf document) with
    | some failure => fail failure
    | none => do
      log (Program.closing o document)
      return 0

end ApiSurface.Main

/-- The program. -/
def main (arguments : List String) : IO UInt32 :=
  match ApiSurface.Command.Options.ofArguments arguments with
  | .error refusal => ApiSurface.Main.refuse refusal
  | .ok o => ApiSurface.Main.runWith o
