import ApiSurface.Journal.Reporting

/-!
# Failures of a run

A run fails because its inputs are not there or cannot be used, or because the analysis does.
`Failure.message` is what the user is told first.

Main definitions: `Failure`, `Failure.message`, `Stage`.
-/
namespace ApiSurface.Program

/-- Why a run fails. -/
inductive Failure where
  | inputNotFound (path : String)
  | settingsNotFound (path : String)
  /-- No packages are searched for endpoints. -/
  | noControllers
  | unsupportedInput (path : String)
  /-- A file cannot be read, or is no archive although its name says so. -/
  | unreadable (path : String)
  /-- A file has no meaning, because of a fault if it is a class file. -/
  | unparsable (path : String) (cause : Option Fault)
  /-- A file that is written or an archive cannot be opened. -/
  | unopened (path : String)
  | analysis (fault : Fault)

namespace Failure

/-- The failure in words. -/
def message : Failure → String
  | inputNotFound path => "input not found: " ++ path
  | settingsNotFound path => "config not found: " ++ path
  | noControllers =>
    "no controller packages configured; pass --controller-package or set scope.controller_packages"
  | unsupportedInput path => "unsupported input file: " ++ path
  | unreadable path => "failed to read " ++ path
  | unparsable path _ => "failed to parse " ++ path
  | unopened path => "failed to open " ++ path
  | analysis fault => fault.message

/-- The fault behind a failure. -/
def fault? : Failure → Option Fault
  | unparsable _ cause => cause
  | analysis fault => some fault
  | _ => none

end Failure

/-- A computation that reports events and may end with a failure. Events reported before the
failure are kept. -/
abbrev Stage := ExceptT Failure (StateM (List Event))

namespace Stage

/-- Report an event. -/
def report (event : Event) : Stage Unit := modify (· ++ [event])

/-- The result or the fault of a computation that reports nothing. -/
def ofExcept {α : Type} (result : Except Fault α) : Stage α :=
  ExceptT.mk (pure (result.mapError .analysis))

/-- A part of the analysis as a stage of a run. -/
def ofReporting {α : Type} (part : Reporting α) : Stage α :=
  ExceptT.mk fun events =>
    let (result, events) := part.run.run events
    (result.mapError .analysis, events)

end Stage

end ApiSurface.Program
