import ApiSurface.Idiom.Basic

/-!
# Searching a method body for an idiom

A scan looks at the beginning of a body, either forward or backward from its end, and skips
markers. At each position the patterns are matched greedily: an optional pattern takes its
instruction if the rest can then be matched, and is left out otherwise. The first position at
which the idiom matches is taken; an anchored scan tries only the first position.

Main definitions: `Scan`, `Scan.find`, `Scan.require`, `Scan.dump`.
-/
namespace ApiSurface

/-- The instructions that patterns took, one entry for each pattern; an optional pattern that was
left out took none. -/
abbrev Captures := List (Option Instruction)

namespace Idiom

/-- Match patterns against the instructions from the first one on. -/
def matchAt (u : Universe) : Idiom → List Instruction → Except Fault (Option Captures)
  | [], _ => .ok (some [])
  | p :: ps, window => do
    let taken ← match window with
      | [] => .ok none
      | i :: rest => do
        if ← p.test.holds u i.payload then
          let captures ← matchAt u ps rest
          .ok (captures.map (some i :: ·))
        else .ok none
    match taken with
    | some captures => .ok (some captures)
    | none =>
      if p.isOptional then do
        let captures ← matchAt u ps window
        .ok (captures.map (none :: ·))
      else .ok none

/-- Match patterns at the first position where they match, or only at the first one. -/
def search (u : Universe) (idiom : Idiom) (anchored : Bool) :
    List Instruction → Except Fault (Option Captures)
  | [] => matchAt u idiom []
  | i :: rest => do
    match ← matchAt u idiom (i :: rest) with
    | some captures => .ok (some captures)
    | none => if anchored then .ok none else search u idiom anchored rest

end Idiom

/-- The part of a method body that is searched, and how. -/
structure Scan where
  /-- The method, for messages. -/
  location : String
  /-- The searched instructions, from the start of the body on. -/
  range : List Instruction
  /-- The search goes from the end of the range to its start. -/
  backward : Bool
  /-- Only the first position is tried. -/
  anchored : Bool

namespace Scan

/-- Search a whole body from its start. -/
def forward (location : String) (body : List Instruction) : Scan :=
  ⟨location, body, false, false⟩

/-- Search backward from the instruction before the one at index `anchor`. -/
def before (location : String) (body : List Instruction) (anchor : Nat) : Scan :=
  ⟨location, body.take anchor, true, false⟩

/-- Try only the first position. -/
def anchor (s : Scan) : Scan := { s with anchored := true }

/-- The instructions without markers, in the order in which they are searched. -/
def window (s : Scan) : List Instruction :=
  let real := s.range.filter (! ·.isMarker)
  if s.backward then real.reverse else real

/-- The first match of an idiom. Captures are in program order. -/
def find (u : Universe) (s : Scan) (idiom : Idiom) : Except Fault (Option Captures) :=
  if s.backward then do
    let captures ← Idiom.search u idiom.reverse s.anchored s.window
    .ok (captures.map List.reverse)
  else Idiom.search u idiom s.anchored s.window

/-- A line of a listing: the index in the body, at least five characters wide, and the
instruction. -/
def line (index : Nat) (i : Instruction) : String :=
  let digits := toString index
  String.ofList (List.replicate (5 - digits.length) ' ') ++ digits ++ "\t" ++ i.payload.text ++ "\n"

/-- A listing of the searched instructions without markers, in program order. -/
def dump (s : Scan) : String :=
  let real := s.range.zipIdx.filter fun (i, _) => ! i.isMarker
  "[\n" ++ String.join (real.map fun (i, index) => line index i) ++ "]"

/-- The first match of an idiom, which has to be there. -/
def require (u : Universe) (s : Scan) (name : String) (idiom : Idiom) : Except Fault Captures := do
  match ← s.find u idiom with
  | some captures => .ok captures
  | none => .error (.idiomNotMatched name s.location s.dump)

end Scan

end ApiSurface
