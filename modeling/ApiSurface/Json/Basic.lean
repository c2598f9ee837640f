import ApiSurface.Number.Layout

/-!
# JSON values

Objects keep their members in order, and may repeat a key.
-/
namespace ApiSurface

/-- A JSON value. -/
inductive Json where
  | null
  | bool (value : Bool)
  | int (value : Int)
  | number (value : Number.BinaryValue)
  | string (value : String)
  | array (items : List Json)
  | object (members : List (String × Json))

namespace Json

/-- An array of strings. -/
def strings (values : List String) : Json := .array (values.map .string)

/-- A member that is left out if it has no value. -/
def member? (key : String) (value : Option Json) : List (String × Json) :=
  (value.map fun v => (key, v)).toList

end Json

end ApiSurface
