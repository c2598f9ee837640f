import ApiSurface.Schema.Fields
import ApiSurface.Universe.Basic

/-!
# How many names a request can lead to

The classes that a class can be applied to are those of the request and those that stand as type
arguments in field signatures, and no class is applied to more of them at once than the widest
list of arguments has. So there are only finitely many names, even if a generic class refers to
itself with ever new arguments.

Main definition: `nameBound`.
-/
namespace ApiSurface.Schema

mutual

/-- The lists of type arguments that occur in a type. -/
def argumentLists : GenericType → List (List TypeArgument)
  | .base _ => []
  | .variable _ => []
  | .array component => argumentLists component
  | .object _ arguments => arguments :: nestedLists arguments

/-- The lists of type arguments that occur in an argument. -/
def listsWithin : TypeArgument → List (List TypeArgument)
  | .any => []
  | .exact t => argumentLists t
  | .atMost t => argumentLists t
  | .atLeast t => argumentLists t

/-- The lists of type arguments that occur in arguments. -/
def nestedLists : List TypeArgument → List (List TypeArgument)
  | [] => []
  | argument :: arguments => listsWithin argument ++ nestedLists arguments

end

/-- The class that an argument names. -/
def argumentClass? (argument : TypeArgument) : Option String :=
  match argument.bound? with
  | some (.object name _) => some name
  | _ => none

/-- The lists of type arguments that occur in the types of the fields of a class. -/
def fieldArguments (record : ClassRecord) : List (List TypeArgument) :=
  match record.info with
  | .ok c => c.fields.flatMap fun f =>
    match fieldType f with
    | .ok t => argumentLists t
    | .error _ => []
  | .error _ => []

/-- The lists of type arguments that occur in a universe. -/
def universeArguments (u : Universe) : List (List TypeArgument) :=
  (u.records.toList.map (·.2)).flatMap fieldArguments

/-- The classes that a class can be applied to when the schema of a class applied to `generics` is
made. -/
def argumentClasses (u : Universe) (generics : List String) : List String :=
  (universeArguments u).flatten.filterMap argumentClass? ++ generics

/-- A bound of the number of classes that a class is applied to at once. -/
def argumentWidth (u : Universe) (generics : List String) : Nat :=
  (generics.length :: (universeArguments u).map List.length).foldr max 0

/-- A bound of the number of names that a request for a class applied to `generics` can lead to. -/
def nameBound (u : Universe) (generics : List String) : Nat :=
  u.size * Nat.pow ((argumentClasses u generics).length + 1) (argumentWidth u generics)

end ApiSurface.Schema
