import ApiSurface.Text.Blank
import ApiSurface.Text.Segments
import ApiSurface.Universe.Basic

/-!
# Settings of an analysis

Settings say which packages are looked at, which types mark validators, discriminators and the
like, how deep calls are followed and what the document says about itself. Names may be written
with dots; `Settings.normalize` brings them into internal form and derives the packages that were
left out.
-/
namespace ApiSurface

/-- The arguments that the constructor of a validator takes. -/
inductive ValidatorShape where
  | notNull | notBlank | nullOrNotBlank | compareToConstant | compareToField | between
deriving DecidableEq

namespace ValidatorShape

/-- The name of the shape in settings and documents. -/
def name : ValidatorShape → String
  | notNull => "not-null"
  | notBlank => "not-blank"
  | nullOrNotBlank => "null-or-not-blank"
  | compareToConstant => "compare-to-constant"
  | compareToField => "compare-to-field"
  | between => "between"

/-- The shapes in the order in which they are listed. -/
def all : List ValidatorShape :=
  [notNull, notBlank, nullOrNotBlank, compareToConstant, compareToField, between]

/-- The shape of a name. -/
def ofName? (name : String) : Option ValidatorShape := all.find? (·.name = name)

@[simp] theorem ofName?_name (s : ValidatorShape) : ofName? s.name = some s := by
  cases s <;> decide

end ValidatorShape

/-- Validator types by name, with the arguments of their constructors. -/
abbrev Validators := Std.ExtTreeMap String ValidatorShape

/-- The types that mark a role in the analysed classes. -/
structure Markers where
  /-- Base of the validators: constructing one of its descendants is a validation rule. -/
  validatorBase : Option String := none
  /-- Interface of the enums that tell alternatives apart. -/
  discriminatorEnum : Option String := none
  /-- Annotation of fields that are not part of the data. -/
  jsonIgnore : String := "com/fasterxml/jackson/annotation/JsonIgnore"
  /-- Annotation of interfaces whose calls need no implementation. -/
  functionalInterface : String := "java/lang/FunctionalInterface"
  /-- Superclasses of compiled lambdas. -/
  lambdaBases : List String := ["kotlin/jvm/internal/Lambda"]
  validators : Validators := {}

/-- A server that the document names. -/
structure Server where
  url : String
  description : String := ""
deriving DecidableEq

/-- What a document says about itself. -/
structure DocumentInfo where
  title : String := "OpenAPI Definition"
  version : String := "v0"
  servers : List Server := [⟨"http://localhost:8000", "Local development server"⟩]
deriving DecidableEq

/-- Settings of an analysis. -/
structure Settings where
  scope : Scope := {}
  markers : Markers := {}
  /-- The number of methods a call path may have. -/
  maxCallDepth : Nat := 256
  document : DocumentInfo := {}

/-- The internal form of a name: no blanks around it, no dots or slashes at its end, and slashes
for dots. -/
def internalName (name : String) : String :=
  let trimmed := Text.dropEndWhile (fun c => c = '.' || c = '/') (Text.trim name.toList)
  String.ofList (trimmed.map fun c => if c = '.' then '/' else c)

/-- The first two segments of a package. -/
def rootPackage (package : String) : String :=
  String.ofList (Text.joinSegments '/' ((Text.segments '/' package.toList).take 2))

/-- Insert a name into an ascending list, unless it is there. -/
def insertAscending (name : String) : List String → List String
  | [] => [name]
  | other :: others =>
    if name = other then other :: others
    else if name < other then name :: other :: others
    else other :: insertAscending name others

/-- The root packages of some packages, each once and in ascending order. -/
def rootPackages (packages : List String) : List String :=
  packages.foldr (fun package roots => insertAscending (rootPackage package) roots) []

/-- The packages in internal form. Where no packages are given for types or for traversal, the
roots of the controllers' packages are taken. -/
def Scope.normalize (s : Scope) : Scope :=
  let controllers := s.controllers.map internalName
  let orRoots (packages : List String) : List String :=
    if packages.isEmpty then rootPackages controllers else packages.map internalName
  ⟨controllers, orRoots s.types, orRoots s.traversal⟩

/-- The validators with their names in internal form. Of two names that become one, the later
counts. -/
def normalizeValidators (validators : Validators) : Validators :=
  validators.toList.foldl (fun map (name, shape) => map.insert (internalName name) shape) {}

/-- The markers in internal form. -/
def Markers.normalize (m : Markers) : Markers where
  validatorBase := m.validatorBase.map internalName
  discriminatorEnum := m.discriminatorEnum.map internalName
  jsonIgnore := internalName m.jsonIgnore
  functionalInterface := internalName m.functionalInterface
  lambdaBases := m.lambdaBases.map internalName
  validators := normalizeValidators m.validators

/-- The settings with all names in internal form and no package list left out. -/
def Settings.normalize (s : Settings) : Settings :=
  { s with scope := s.scope.normalize, markers := s.markers.normalize }

end ApiSurface
