import ApiSurface.Fault
import ApiSurface.Journal.Event

/-!
# Stages that report events

A stage of an analysis reports events and may end with a fault. Events reported before the fault
are kept.
-/
namespace ApiSurface

/-- A computation that reports events and may end with a fault. -/
abbrev Reporting := ExceptT Fault (StateM (List Event))

namespace Reporting

/-- Report an event. -/
def report (event : Event) : Reporting Unit := modify (· ++ [event])

/-- Report events in order. -/
def reportAll (events : List Event) : Reporting Unit := modify (· ++ events)

/-- The result or the fault of a computation that reports nothing. -/
def ofExcept {α : Type} (result : Except Fault α) : Reporting α := ExceptT.mk (pure result)

/-- What a stage ends with, whatever it reports. -/
def outcome {α : Type} (stage : Reporting α) : Except Fault α := (stage.run.run []).1

end Reporting

end ApiSurface
