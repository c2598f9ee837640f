import ApiSurface.Calls.Step

/-!
# Walking the call graph

A walk starts at a method and enters every method that it reaches, depth first and each method
once. It records the exceptions thrown on the way, each type with the first path found to it, and
the rules made.

The walk is a recursion on the number of frames that the call path may still grow by.

Main definitions: `Walk`, `visit`, `walk`.
-/
namespace ApiSurface

/-- An exception that an endpoint may throw, with the first call path found to it. -/
structure ThrownException where
  type : String
  path : List Frame
deriving DecidableEq

/-- What a walk has done so far. -/
structure Walk where
  /-- The methods entered, in order. -/
  entered : List Frame := []
  exceptions : List ThrownException := []
  validations : List ValidationRule := []
  events : List Event := []

namespace Walk

/-- Enter a method. -/
def enter (w : Walk) (frame : Frame) : Walk := { w with entered := w.entered ++ [frame] }

/-- Record an exception, unless its type has been recorded. -/
def throw (w : Walk) (type : String) (path : List Frame) : Walk :=
  if w.exceptions.any (·.type = type) then w
  else { w with exceptions := w.exceptions ++ [⟨type, path⟩] }

/-- Record a rule. -/
def validate (w : Walk) (rule : ValidationRule) : Walk :=
  { w with validations := w.validations ++ [rule] }

/-- Record an event. -/
def note (w : Walk) (event : Event) : Walk := { w with events := w.events ++ [event] }

end Walk

namespace Calls

/-- A computation that extends a walk and may end it with a fault. What was recorded before the
fault is kept. -/
abbrev Walking := ExceptT Fault (StateM Walk)

/-- Perform a step of the method on top of the call path. -/
def perform (enter : List Frame → ClassRecord → Method → Walking Unit) (path : List Frame) :
    Step → Walking Unit
  | .enter record m => enter path record m
  | .throws type => modify (·.throw type path)
  | .validates rule => modify (·.validate rule)
  | .unimplemented callee => throw (.unboundedDispatch callee path)
  | .note event => modify (·.note event)
  | .fail fault => throw fault

/-- Perform steps in order. -/
def performAll (enter : List Frame → ClassRecord → Method → Walking Unit) (path : List Frame) :
    List Step → Walking Unit
  | [] => pure ()
  | step :: steps => do
    perform enter path step
    performAll enter path steps

/-- Enter a method from the methods of `path`, unless it has been entered. The path may grow by
`left` more frames. -/
def visit (u : Universe) (markers : Markers) (limit : Nat) :
    (left : Nat) → (path : List Frame) → ClassRecord → Method → Walking Unit
  | left, path, record, m => do
    let frame := Frame.ofMethod record m
    let w ← get
    if frame ∈ w.entered then pure ()
    else do
      set (w.enter frame)
      match left with
      | 0 => throw (.callDepthExceeded limit (path ++ [frame]))
      | left + 1 =>
        performAll (visit u markers limit left) (path ++ [frame]) (methodSteps u markers record m)

/-- Walk from a method. The walk is returned also when it ends with a fault. -/
def walk (u : Universe) (markers : Markers) (limit : Nat) (record : ClassRecord) (m : Method) :
    Except Fault Unit × Walk :=
  (visit u markers limit limit [] record m).run.run {}

end Calls

end ApiSurface
