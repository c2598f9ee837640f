import ApiSurface.Journal.Reporting
import ApiSurface.Schema.Basic
import ApiSurface.Schema.Requesting
import ApiSurface.Universe.Basic

/-!
# The catalog of named schemas

A catalog knows which class, applied to which classes, a schema name stands for, and the schemas
made so far. A name is registered before its schema is made, so that a class can refer to itself,
and it is never registered for anything else. A catalog survives a fault: names that were
registered for the request that failed stay registered.

Main definitions: `Catalog`, `Generating`, `answer`.
-/
namespace ApiSurface.Schema

/-- Registered names and finished schemas. -/
structure Catalog where
  /-- The class and the type arguments that a name stands for. -/
  registry : Std.ExtTreeMap String Request := {}
  schemas : Std.ExtTreeMap String Schema := {}
  events : List Event := []

namespace Catalog

/-- Register a name. -/
def register (c : Catalog) (name : String) (request : Request) : Catalog :=
  { c with registry := c.registry.insert name request }

/-- Add a finished schema. -/
def finish (c : Catalog) (name path : String) (schema : Schema) : Catalog :=
  { c with
    schemas := c.schemas.insert name schema
    events := c.events ++ [.schemaGenerated name path] }

end Catalog

/-- A computation that extends a catalog and may end it with a fault. -/
abbrev Generating := ExceptT Fault (StateM Catalog)

/-- The result or the fault of a computation that leaves the catalog alone. -/
def ofExcept {α : Type} (result : Except Fault α) : Generating α := ExceptT.mk (pure result)

/-- Carry out a computation that asks for names, with a way to give them. -/
def answer {α : Type} (generate : Request → Generating String) : Requesting α → Generating α
  | .done a => pure a
  | .fail fault => throw fault
  | .ask request next => do
    let name ← generate request
    answer generate (next name)

end ApiSurface.Schema
