import ApiSurface.Command.Options

/-!
# How the program is used

What the user is told who asks for help or gives a command line that is not carried out.

Main definitions: `helpText`, `Refusal.message`.
-/
namespace ApiSurface.Command

/-- What a command line looks like. -/
def usageText : String := "Usage: classdoc [OPTIONS] --input <PATH>"

/-- What the user is told who asks for help. -/
def helpText : String := String.intercalate "\n" [
  "Recover an OpenAPI document from compiled Spring controllers.",
  "",
  usageText,
  "",
  "Options:",
  "      --input <PATH>                 Directory, archive or class file to analyse",
  "      --config <PATH>                Settings file, classdoc.toml if none is named",
  "      --controller-package <PACKAGE> Package that is searched for endpoints",
  "      --type-package <PACKAGE>       Package whose classes may describe data",
  "      --traversal-package <PACKAGE>  Package whose methods are followed",
  "      --output <PATH>                File for the document instead of the standard output",
  "      --quiet                        Report warnings only",
  "      --timing                       Report how long the run took",
  "  -h, --help                         Print help",
  "  -V, --version                      Print version"]

/-- The refusal in words. -/
def Refusal.message : Refusal → String
  | unknownArgument => "unexpected argument"
  | missingOption => "the option --input <PATH> was not provided"
  | invalidValue => "an option has no value"
  | repeated => "an option was given more than once"
  | needlessValue => "an option that takes no value was given one"
  | help => "help was asked for"
  | version => "the version was asked for"

end ApiSurface.Command
