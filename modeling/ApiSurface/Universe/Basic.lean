import ApiSurface.Class.Basic
import ApiSurface.Fault
import ApiSurface.Text.Segments
import Std.Data.ExtTreeMap

/-!
# The class universe

A universe holds the classes of one analysis by name, in ascending order of their names. Three
lists of package names cut subsets out of it: the classes searched for endpoints, the classes that
may describe data, and the classes whose methods are followed.

A class that could not be decoded is in the universe all the same; its fault is reported by
whoever looks into it.

Main definitions: `ClassRecord`, `Scope`, `Subset`, `Universe`, `Universe.ofRecords`,
`Universe.recordsIn`.
-/
namespace ApiSurface

/-- A class by name, with what decoding it gave. -/
structure ClassRecord where
  path : String
  content : Except ClassFile.Undecodable Class

namespace ClassRecord

/-- The record of a decoded class. -/
def ofClass (c : Class) : ClassRecord := ⟨c.name, .ok c⟩

/-- The name without its package. -/
def simpleName (r : ClassRecord) : String := Text.simpleName r.path

/-- The class, or the fault that decoding it ended with. -/
def info (r : ClassRecord) : Except Fault Class := Fault.ofDecoding r.content

/-- Records are told apart by name alone. -/
def isSame (r s : ClassRecord) : Bool := r.path = s.path

/-- The record by its name, for messages. -/
def inspect (r : ClassRecord) : String :=
  "ClassRecord \x7b path: " ++ Text.quoted r.path ++ " \x7d"

end ClassRecord

/-- Package names that select the subsets of a universe. -/
structure Scope where
  controllers : List String := []
  types : List String := []
  traversal : List String := []
deriving DecidableEq

/-- The subsets of a universe. -/
inductive Subset where
  /-- Classes searched for endpoints. -/
  | controllers
  /-- Classes that may describe data. -/
  | types
  /-- Classes whose methods are followed. -/
  | traversal
deriving DecidableEq

/-- The packages that select a subset. -/
def Scope.packages (s : Scope) : Subset → List String
  | .controllers => s.controllers
  | .types => s.types
  | .traversal => s.traversal

/-- The class lies in the package or in a package below it. -/
def isInPackage (path package : String) : Bool :=
  (package.toList ++ ['/']).isPrefixOf path.toList

/-- Every class stands under its own name. -/
def Universe.Keyed (records : Std.ExtTreeMap String ClassRecord) : Prop :=
  ∀ (path : String) (r : ClassRecord), records[path]? = some r → r.path = path

/-- Classes by name, with the packages that select the subsets. -/
structure Universe where
  records : Std.ExtTreeMap String ClassRecord
  scope : Scope
  keyed : Universe.Keyed records

namespace Universe

/-- The number of classes. -/
def size (u : Universe) : Nat := u.records.size

/-- The names of the classes, in ascending order. -/
def paths (u : Universe) : List String := u.records.keys

/-- The class of a name, if it is there. -/
def find? (u : Universe) (path : String) : Option ClassRecord := u.records[path]?

/-- The class of a name, which has to be there. -/
def lookup (u : Universe) (path : String) : Except Fault ClassRecord :=
  match u.find? path with
  | some r => .ok r
  | none => .error (.classNotFound path)

/-- The class is in the subset: it is in the universe and in one of the subset's packages. -/
def contains (u : Universe) (subset : Subset) (path : String) : Bool :=
  u.records.contains path && (u.scope.packages subset).any (isInPackage path ·)

/-- The classes of a subset, in ascending order of their names. -/
def recordsIn (u : Universe) (subset : Subset) : List ClassRecord :=
  (u.records.toList.filter fun (path, _) => u.contains subset path).map (·.2)

/-- The names that satisfy a test, in ascending order. -/
def pathsWhere (u : Universe) (p : String → Bool) : List String := u.paths.filter p

/-- Add records one by one; a name that is taken already is a fault. -/
def insertAll (records : Std.ExtTreeMap String ClassRecord) :
    List ClassRecord → Except Fault (Std.ExtTreeMap String ClassRecord)
  | [] => .ok records
  | r :: rest =>
    if records.contains r.path then .error (.duplicateClass r.path)
    else insertAll (records.insert r.path r) rest

/-- Adding records keeps every class under its own name. -/
theorem keyed_insertAll {records all : Std.ExtTreeMap String ClassRecord} {rs : List ClassRecord}
    (keyed : Keyed records) (h : insertAll records rs = .ok all) : Keyed all := by
  induction rs generalizing records with
  | nil =>
    cases h
    exact keyed
  | cons r rest ih =>
    simp only [insertAll] at h
    split at h
    · cases h
    · refine ih ?_ h
      intro path s hs
      rw [Std.ExtTreeMap.getElem?_insert] at hs
      split at hs
      · cases hs
        simp_all
      · exact keyed path s hs

/-- The universe of some records, no two of which have one name. -/
def ofRecords (records : List ClassRecord) (scope : Scope) : Except Fault Universe :=
  match h : insertAll {} records with
  | .ok all => .ok { records := all, scope, keyed := keyed_insertAll (by simp [Keyed]) h }
  | .error fault => .error fault

end Universe

end ApiSurface
