/-!
# Configuration data

The data that settings are read from, whatever the text they were written in.
-/
namespace ApiSurface

/-- A piece of configuration data. -/
inductive Datum where
  /-- An explicit absence. -/
  | null
  | bool (value : Bool)
  | int (value : Int)
  | string (value : String)
  | list (items : List Datum)
  | table (entries : List (String × Datum))
  /-- A fraction, which no setting is. -/
  | fraction
  /-- A date or a time, which may stand for a structure whose members are all left out. -/
  | moment

/-- What distinguishes the formats that configuration data is written in. -/
structure DataFormat where
  /-- A list that stands for a structure may have more items than the structure has members. -/
  allowsSurplus : Bool
  /-- An empty table or list may stand for the content of a name that has none. -/
  hasEmptyContent : Bool
deriving DecidableEq

/-- Data written as JSON. -/
def DataFormat.json : DataFormat := ⟨false, false⟩

/-- Data written as TOML. -/
def DataFormat.toml : DataFormat := ⟨true, true⟩

end ApiSurface
