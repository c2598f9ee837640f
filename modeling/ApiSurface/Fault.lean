import ApiSurface.Calls.Frame
import ApiSurface.ClassFile.Refusal
import ApiSurface.Descriptor.Refusal
import ApiSurface.Unrecognized

/-!
# Faults of the analysis

Every fault ends the analysis: the input does not change while it is read, and an approximation
would describe an interface that does not exist. `Fault.message` is the only place where a fault
is put into words.
-/
namespace ApiSurface

/-- Why the analysis of a set of classes fails. -/
inductive Fault where
  /-- Two classes have one name. -/
  | duplicateClass (path : String)
  /-- A class file is refused. -/
  | decode (name : String) (reason : ClassFile.Refusal)
  /-- A class that has to be there is not. -/
  | classNotFound (path : String)
  /-- A descriptor or signature is refused. -/
  | descriptor (text : String) (reason : Descriptor.Refusal)
  /-- A class is above itself in the hierarchy, by way of the classes of the chain. -/
  | hierarchyCycle (path : String) (chain : List String)
  /-- A construct departs from every known form. -/
  | unrecognized (cause : Unrecognized) (location : String)
  /-- The instructions of `dump` do not have the form of an idiom. -/
  | idiomNotMatched (idiom location dump : String)
  /-- A call of an abstract method that no class implements. -/
  | unboundedDispatch (callee : Frame) (path : List Frame)
  /-- The path is longer than calls are followed. -/
  | callDepthExceeded (limit : Nat) (path : List Frame)
  /-- Two types would have one schema name. -/
  | schemaNameCollision (name existing requested : String)

namespace Fault

/-- The fault in words. -/
def message : Fault → String
  | duplicateClass path => "duplicate class name encountered while loading: " ++ path
  | decode name reason => "failed to decode class " ++ name ++ ": " ++ reason.message
  | classNotFound path => "could not locate class " ++ path
  | descriptor text reason => "invalid descriptor " ++ text ++ ": " ++ reason.message text
  | hierarchyCycle path chain =>
    "class hierarchy of " ++ path ++ " is cyclic: " ++ String.intercalate " -> " chain
  | unrecognized cause location =>
    "unrecognized " ++ cause.construct ++ " in " ++ location ++ ": " ++ cause.detail
  | idiomNotMatched idiom location dump =>
    "could not match expected idiom " ++ idiom ++ " in " ++ location ++ "\n" ++ dump
  | unboundedDispatch callee path =>
    callee.location ++ " has no known implementations (called from " ++ callPathText path ++ ")"
  | callDepthExceeded limit path =>
    "call graph exceeded depth " ++ toString limit ++ " at " ++ callPathText path
  | schemaNameCollision name existing requested =>
    "schema name " ++ name ++ " was already taken by " ++ existing ++ ", cannot reuse it for " ++
      requested

/-- Read a descriptor or signature, and keep its text with the reason for a refusal. -/
def ofReading {α : Type} (text : String) : Except Descriptor.Refusal α → Except Fault α
  | .ok a => .ok a
  | .error reason => .error (.descriptor text reason)

/-- A class, or the fault of a class file that is refused. -/
def ofDecoding {α : Type} : Except ClassFile.Undecodable α → Except Fault α
  | .ok a => .ok a
  | .error refused => .error (.decode refused.name refused.reason)

end Fault

end ApiSurface
