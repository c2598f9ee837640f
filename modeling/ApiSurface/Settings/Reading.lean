import ApiSurface.Settings.Basic
import ApiSurface.Settings.Datum

/-!
# Reading settings

Settings are read from tables. Keys that are left out take their defaults and keys without a
meaning are skipped, but a value of the wrong kind refuses the whole. A structure may also be
written as the list of its members in order; members left out at its end take their defaults. A
date or a time in place of a structure leaves out all of them.

Main definition: `Settings.ofDatum?`.
-/
namespace ApiSurface
namespace Datum

/-- Read a text. -/
def string? : Datum → Option String
  | string value => some value
  | _ => none

/-- Read a number that counts something, of at most 64 bits. -/
def count? : Datum → Option Nat
  | int value => if 0 ≤ value ∧ value < 0x10000000000000000 then some value.toNat else none
  | _ => none

/-- Read each item of a list. -/
def list? {α : Type} (item : Datum → Option α) : Datum → Option (List α)
  | list items => items.mapM item
  | _ => none

/-- Read a value that may be absent. -/
def optional? {α : Type} (value : Datum → Option α) : Datum → Option (Option α)
  | null => some none
  | d => (value d).map some

/-- The datum of a key; the last one counts. -/
def lookup? (entries : List (String × Datum)) (key : String) : Option Datum :=
  (entries.reverse.find? (·.1 = key)).map (·.2)

/-- The data of a structure's members, by their keys in order; none for those left out. -/
def members? (format : DataFormat) (keys : List String) : Datum → Option (List (Option Datum))
  | table entries => some (keys.map (lookup? entries))
  | list items =>
    if items.length ≤ keys.length ∨ format.allowsSurplus then
      some ((List.range keys.length).map fun i => items[i]?)
    else none
  | moment => some (keys.map fun _ => none)
  | _ => none

/-- Read a member, or take its default. -/
def orDefault {α : Type} (value : Datum → Option α) (default : α) : Option Datum → Option α
  | none => some default
  | some d => value d

end Datum

namespace Settings
open Datum

/-- Read the packages. -/
def scopeOf? (format : DataFormat) (d : Datum) : Option Scope := do
  match ← d.members? format ["controller_packages", "type_packages", "traversal_packages"] with
  | [controllers, types, traversal] =>
    let controllers ← orDefault (list? string?) [] controllers
    let types ← orDefault (list? string?) [] types
    let traversal ← orDefault (list? string?) [] traversal
    some { controllers, types, traversal }
  | _ => none

/-- Read the shape of a validator: its name, or a table with the name as its only key. -/
def shapeOf? (format : DataFormat) : Datum → Option ValidatorShape
  | .string name => ValidatorShape.ofName? name
  | .table [(name, content)] =>
    match content with
    | .null => ValidatorShape.ofName? name
    | .table [] => if format.hasEmptyContent then ValidatorShape.ofName? name else none
    | .list [] => if format.hasEmptyContent then ValidatorShape.ofName? name else none
    | _ => none
  | _ => none

/-- Read the shapes of validators. -/
def validatorsOf? (format : DataFormat) : Datum → Option Validators
  | .table entries =>
    entries.foldlM (fun (map : Validators) (name, d) => do
      let shape ← shapeOf? format d
      some (map.insert name shape)) {}
  | _ => none

/-- Read the markers. -/
def markersOf? (format : DataFormat) (d : Datum) : Option Markers := do
  match ← d.members? format ["validator_base", "discriminator_enum", "json_ignore",
    "functional_interface", "lambda_bases", "validators"] with
  | [base, discriminator, ignore, functional, lambdas, validators] =>
    let standard : Markers := {}
    let validatorBase ← orDefault (optional? string?) none base
    let discriminatorEnum ← orDefault (optional? string?) none discriminator
    let jsonIgnore ← orDefault string? standard.jsonIgnore ignore
    let functionalInterface ← orDefault string? standard.functionalInterface functional
    let lambdaBases ← orDefault (list? string?) standard.lambdaBases lambdas
    let validators ← orDefault (validatorsOf? format) {} validators
    some { validatorBase, discriminatorEnum, jsonIgnore, functionalInterface, lambdaBases,
           validators }
  | _ => none

/-- Read how deep calls are followed. -/
def callDepthOf? (format : DataFormat) (d : Datum) : Option Nat := do
  match ← d.members? format ["max_call_depth"] with
  | [depth] => orDefault count? ({} : Settings).maxCallDepth depth
  | _ => none

/-- Read a server, which has to have an address. -/
def serverOf? (format : DataFormat) (d : Datum) : Option Server := do
  match ← d.members? format ["url", "description"] with
  | [some url, description] =>
    let url ← url.string?
    let description ← orDefault string? "" description
    some { url, description }
  | _ => none

/-- Read what a document says about itself. -/
def documentOf? (format : DataFormat) (d : Datum) : Option DocumentInfo := do
  match ← d.members? format ["title", "version", "servers"] with
  | [title, version, servers] =>
    let standard : DocumentInfo := {}
    let title ← orDefault string? standard.title title
    let version ← orDefault string? standard.version version
    let servers ← orDefault (list? (serverOf? format)) standard.servers servers
    some { title, version, servers }
  | _ => none

/-- Read settings. -/
def ofDatum? (format : DataFormat) (d : Datum) : Option Settings := do
  match ← d.members? format ["scope", "markers", "walker", "document"] with
  | [scope, markers, walker, document] =>
    let standard : Settings := {}
    let scope ← orDefault (scopeOf? format) standard.scope scope
    let markers ← orDefault (markersOf? format) standard.markers markers
    let maxCallDepth ← orDefault (callDepthOf? format) standard.maxCallDepth walker
    let document ← orDefault (documentOf? format) standard.document document
    some { scope, markers, maxCallDepth, document }
  | _ => none

end Settings

end ApiSurface
