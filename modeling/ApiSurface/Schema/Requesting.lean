import ApiSurface.Fault
import ApiSurface.Text.Segments

/-!
# Asking for schemas

The schema of a class refers to those of other classes by name. It is made by a computation that
asks for these names one after the other and goes on with the answers; what is done to give an
answer is no part of it.

Main definitions: `Request`, `Requesting`, `schemaName`.
-/
namespace ApiSurface.Schema

/-- A class applied to classes, for whose schema a name is asked. -/
structure Request where
  path : String
  generics : List String
deriving DecidableEq

/-- The name of the schema of a class applied to classes: the simple names, the class before two
underscores and its arguments separated by one. -/
def schemaName (path : String) (generics : List String) : String :=
  if generics.isEmpty then Text.simpleName path
  else Text.simpleName path ++ "__" ++ String.intercalate "_" (generics.map Text.simpleName)

/-- A computation that asks for schema names and may end with a fault. -/
inductive Requesting (α : Type) where
  | done (a : α)
  | fail (fault : Fault)
  /-- Go on with the name that the request is answered with. -/
  | ask (request : Request) (next : String → Requesting α)

namespace Requesting

variable {α β : Type}

/-- Go on from a result. -/
protected def bind : Requesting α → (α → Requesting β) → Requesting β
  | done a, f => f a
  | fail fault, _ => fail fault
  | ask request next, f => ask request fun name => (next name).bind f

instance : Monad Requesting where
  pure := done
  bind := Requesting.bind

/-- The result or the fault of a computation that asks for nothing. -/
def ofExcept : Except Fault α → Requesting α
  | .ok a => done a
  | .error fault => fail fault

/-- The name of the schema of a class applied to classes. -/
def nameOf (path : String) (generics : List String) : Requesting String := ask ⟨path, generics⟩ done

end Requesting

end ApiSurface.Schema
