/-!
# Command line options

Options take a value or not. Those for packages may be repeated; of the others each is given at
most once. Options are committed one after the other, so that of two mistakes the earlier one is
reported.

Main definitions: `Options`, `Refusal`, `Options.commit`, `Options.turnOn`.
-/
namespace ApiSurface.Command

/-- What a run is asked to do. -/
structure Options where
  input : Option String := none
  settings : Option String := none
  controllers : List String := []
  types : List String := []
  traversal : List String := []
  output : Option String := none
  quiet : Bool := false
  timing : Bool := false

/-- Why a command line is not carried out. -/
inductive Refusal where
  | unknownArgument
  /-- An option that has to be there is missing. -/
  | missingOption
  /-- An option has no value, or an empty one where a path is needed. -/
  | invalidValue
  /-- An option is given twice. -/
  | repeated
  /-- An option that takes no value has one. -/
  | needlessValue
  /-- The user asks for help. -/
  | help
  /-- The user asks for the version. -/
  | version
deriving DecidableEq

/-- Options that take a value. -/
inductive ValueOption where
  | input | settings | controllers | types | traversal | output
deriving DecidableEq

/-- Options that take none. -/
inductive Switch where
  | quiet | timing | help | version
deriving DecidableEq

/-- The options that take a value, by name. -/
def valueOptions : List (String × ValueOption) :=
  [("input", .input), ("config", .settings), ("controller-package", .controllers),
    ("type-package", .types), ("traversal-package", .traversal), ("output", .output)]

/-- The options that take none, by name. -/
def switches : List (String × Switch) :=
  [("quiet", .quiet), ("timing", .timing), ("help", .help), ("version", .version)]

/-- The options that take none, by letter. -/
def switchLetters : List (Char × Switch) := [('h', .help), ('V', .version)]

/-- A path that is given once, and not empty. -/
def onePath (previous : Option String) (value : String) : Except Refusal (Option String) :=
  if previous.isSome then .error .repeated
  else if value = "" then .error .invalidValue
  else .ok (some value)

namespace Options

/-- Commit an option with its value. -/
def commit (o : Options) (option : ValueOption) : Option String → Except Refusal Options
  | none => .error .invalidValue
  | some value =>
    match option with
    | .input => (onePath o.input value).map fun input => { o with input }
    | .settings => (onePath o.settings value).map fun settings => { o with settings }
    | .output => (onePath o.output value).map fun output => { o with output }
    | .controllers => .ok { o with controllers := o.controllers ++ [value] }
    | .types => .ok { o with types := o.types ++ [value] }
    | .traversal => .ok { o with traversal := o.traversal ++ [value] }

/-- Commit an option that takes no value. -/
def turnOn (o : Options) : Switch → Except Refusal Options
  | .quiet => if o.quiet then .error .repeated else .ok { o with quiet := true }
  | .timing => if o.timing then .error .repeated else .ok { o with timing := true }
  | .help => .error .help
  | .version => .error .version

end Options

end ApiSurface.Command
