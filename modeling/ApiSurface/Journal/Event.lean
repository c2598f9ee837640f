import ApiSurface.Text.Quoted

/-!
# Events of an analysis

An analysis reports its progress and its doubts as events. An event has a level and a source, and
its text is a message followed by named values. Most values are written as they are; texts whose
ends matter are quoted.

Main definitions: `Level`, `Event`, `Event.line`, `Level.admits`.
-/
namespace ApiSurface

/-- How much an event matters. -/
inductive Level where
  | error | warn | info | debug
deriving DecidableEq

namespace Level

/-- The level as it stands in a line. -/
def text : Level → String
  | error => "ERROR"
  | warn => "WARN"
  | info => "INFO"
  | debug => "DEBUG"

/-- The more detailed levels have the greater rank. -/
def rank : Level → Nat
  | error => 1
  | warn => 2
  | info => 3
  | debug => 4

end Level

/-- What is reported: nothing, or events up to a level. -/
inductive Verbosity where
  | off
  | upTo (level : Level)
deriving DecidableEq

/-- Events of the level are reported. -/
def Verbosity.admits : Verbosity → Level → Bool
  | off, _ => false
  | upTo most, level => level.rank ≤ most.rank

/-- The verbosity of a name. -/
def Verbosity.ofName? : String → Option Verbosity
  | "off" => some .off
  | "error" => some (.upTo .error)
  | "warn" => some (.upTo .warn)
  | "info" => some (.upTo .info)
  | "debug" => some (.upTo .debug)
  | _ => none

/-- What happens during an analysis. -/
inductive Event where
  -- the program
  | started
  | scanned (classes archives : Nat)
  | extracted (endpoints : Nat)
  | timing (paths schemas : Nat)
  -- the inputs
  | classified (classes controllers types traversal : Nat)
  | nestedArchive (archive entry : String)
  -- endpoints
  | notMapped (path : String)
  | contentTypes (location : String) (declared : List String)
  | walked (location : String) (exceptions validations : Nat)
  -- calls
  | ruleRecovered (validator field : String)
  | exceptionIgnored (type location : String)
  | rethrowSkipped (location : String) (slot : Nat)
  | noBody (owner name descriptor : String)
  | functionalSkipped (owner name : String)
  | notImplemented (path name descriptor : String)
  -- the document
  | schemaGenerated (name path : String)
  | mappingKept (path method controller : String)
deriving DecidableEq

namespace Event
open Text

/-- How much the event matters. -/
def level : Event → Level
  | started => .info
  | scanned _ _ => .info
  | extracted _ => .info
  | timing _ _ => .info
  | contentTypes _ _ => .warn
  | mappingKept _ _ _ => .warn
  | _ => .debug

/-- The part of the program that reports the event. -/
def source : Event → String
  | started => "classdoc"
  | scanned _ _ => "classdoc"
  | extracted _ => "classdoc"
  | timing _ _ => "classdoc"
  | classified _ _ _ _ => "classdoc::repository"
  | nestedArchive _ _ => "classdoc::scan"
  | notMapped _ => "classdoc::endpoint"
  | contentTypes _ _ => "classdoc::endpoint"
  | walked _ _ _ => "classdoc::endpoint"
  | ruleRecovered _ _ => "classdoc::walker"
  | exceptionIgnored _ _ => "classdoc::walker"
  | rethrowSkipped _ _ => "classdoc::walker"
  | noBody _ _ _ => "classdoc::walker"
  | functionalSkipped _ _ => "classdoc::walker"
  | notImplemented _ _ _ => "classdoc::walker"
  | schemaGenerated _ _ => "classdoc::schema"
  | mappingKept _ _ _ => "classdoc::openapi"

/-- The message of the event. -/
def message : Event → String
  | started => "Starting classdoc v0.1.0"
  | scanned _ _ => "scanned input"
  | extracted _ => "extracted endpoints"
  | timing _ _ => "timing"
  | classified _ _ _ _ => "classified class repository"
  | nestedArchive _ _ => "descending into nested archive"
  | notMapped _ => "no request mapping, skipping"
  | contentTypes _ _ => "multiple content types declared, using the first"
  | walked _ _ _ => "walked endpoint"
  | ruleRecovered _ _ => "recovered validation rule"
  | exceptionIgnored _ _ => "ignoring exception outside traversal packages"
  | rethrowSkipped _ _ => "skipping rethrow of synthetic local"
  | noBody _ _ _ => "no method body to enter"
  | functionalSkipped _ _ => "skipping functional interface without implementations"
  | notImplemented _ _ _ => "no implementation or default method to enter"
  | schemaGenerated _ _ => "generated schema"
  | mappingKept _ _ _ => "duplicate mapping, keeping the first"

/-- The named values of the event. `elapsed` are the milliseconds that the analysis took, which
no event knows by itself. -/
def values (elapsed : String) : Event → List (String × String)
  | started => []
  | scanned classes archives => [("classes", toString classes), ("archives", toString archives)]
  | extracted endpoints => [("endpoints", toString endpoints)]
  | timing paths schemas =>
    [("total_ms", elapsed), ("paths", toString paths), ("schemas", toString schemas)]
  | classified classes controllers types traversal =>
    [("classes", toString classes), ("controllers", toString controllers),
      ("types", toString types), ("traversal", toString traversal)]
  | nestedArchive archive entry => [("archive", archive), ("entry", entry)]
  | notMapped path => [("class", quoted path)]
  | contentTypes location declared =>
    [("location", location),
      ("consumes", "[" ++ String.intercalate ", " (declared.map quoted) ++ "]")]
  | walked location exceptions validations =>
    [("location", location), ("exceptions", toString exceptions),
      ("validations", toString validations)]
  | ruleRecovered validator field => [("validator", validator), ("field", field)]
  | exceptionIgnored type location => [("thrown_type", type), ("location", quoted location)]
  | rethrowSkipped location slot => [("location", quoted location), ("slot", toString slot)]
  | noBody owner name descriptor =>
    [("owner", owner), ("name", name), ("descriptor", descriptor)]
  | functionalSkipped owner name => [("owner", owner), ("name", name)]
  | notImplemented path name descriptor =>
    [("implementation", path), ("name", name), ("descriptor", descriptor)]
  | schemaGenerated name path => [("schema", name), ("class", quoted path)]
  | mappingKept path method controller =>
    [("path", path), ("method", method), ("controller", controller)]

/-- The event as a line of a log. -/
def line (elapsed : String) (e : Event) : String :=
  e.level.text ++ " " ++ e.source ++ ": " ++ e.message ++
    String.join ((e.values elapsed).map fun (name, value) => " " ++ name ++ "=" ++ value)

end Event

end ApiSurface
