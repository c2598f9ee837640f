import ApiSurface.Universe.Basic

/-!
# The class hierarchy

A class descends from itself, and from whatever one of its supertypes descends from. Supertypes
that are not in the universe end the search. The search goes depth first, superclass before
interfaces, and fails on the first class that it meets a second time on one chain.
-/
namespace ApiSurface.Universe

/-- Search `target` above `path`, coming from the classes of `chain`. Every step up puts another
class of the universe on the chain, so `budget`, the number of classes not on it, falls. -/
def searchAbove (u : Universe) (target : String) :
    (budget : Nat) → (chain : List String) → (path : String) → Except Fault Bool
  | budget, chain, path =>
    if path = target then .ok true
    else if path ∈ chain then .error (.hierarchyCycle path (chain ++ [path]))
    else match u.find? path with
      | none => .ok false
      | some record => match budget with
        | 0 => .ok false
        | budget + 1 => do
          let c ← record.info
          c.supertypes.anyM (searchAbove u target budget (chain ++ [path]))

/-- The class is `target` or has it above itself. -/
def descends (u : Universe) (path target : String) : Except Fault Bool :=
  u.searchAbove target u.size [] path

/-- The classes of a subset that have `target` above themselves, in ascending order. -/
def typesBelow (u : Universe) (subset : Subset) (target : String) :
    Except Fault (List ClassRecord) :=
  (u.recordsIn subset).filterM fun r =>
    if r.path = target then .ok false else u.descends r.path target

/-- Those of the classes that objects can be made of. -/
def concreteOf (records : List ClassRecord) : Except Fault (List ClassRecord) :=
  records.filterM fun r => do
    let c ← r.info
    .ok c.isConcrete

/-- The concrete classes of a subset that have `target` above themselves. All classes above each
of them are looked at before the first is asked whether it is concrete. -/
def implementations (u : Universe) (subset : Subset) (target : String) :
    Except Fault (List ClassRecord) := do
  let below ← u.typesBelow subset target
  concreteOf below

end ApiSurface.Universe
