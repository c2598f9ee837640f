import ApiSurface.Settings.Datum

/-!
# Tables of TOML texts

Tables are made by headers, by keys with dots and by headers of tables below them. How a table
was made decides what may still be added to it: a header may name a table once, and a key with
dots leads only through tables that keys with dots or deeper headers have made.

Main definitions: `Node`, `Origin`, `assign`, `openTable`, `openItem`, `Node.toDatum`.
-/
namespace ApiSurface.Toml

/-- What a table was made by. -/
inductive Origin where
  /-- A header of its own. -/
  | header
  /-- The header of a table below it. -/
  | implied
  /-- A key with dots. -/
  | dotted
deriving DecidableEq

/-- What a name in a table stands for. -/
inductive Node where
  /-- A value, which cannot be added to. -/
  | value (datum : Datum)
  | table (origin : Origin) (entries : List (String × Node))
  /-- A list of tables, each made by a header. -/
  | tables (items : List (List (String × Node)))

/-- The names in a table with what they stand for. -/
abbrev Entries := List (String × Node)

/-- Change what a name stands for, or add the name. -/
def alter (key : String) (change : Option Node → Option Node) : Entries → Option Entries
  | [] => (change none).map fun node => [(key, node)]
  | (name, node) :: rest =>
    if name = key then (change (some node)).map fun node => (name, node) :: rest
    else (alter key change rest).map ((name, node) :: ·)

/-- Change the last item of a list. -/
def alterLast (change : Entries → Option Entries) : List Entries → Option (List Entries)
  | [] => none
  | [last] => (change last).map ([·])
  | item :: items => (alterLast change items).map (item :: ·)

/-- Change the table at the end of a path, which starts in a table made by `here`. Tables that
the path lacks are added, as made by `made`. -/
def descend (made : Origin) (change : Origin → Entries → Option Entries) :
    (path : List String) → (here : Origin) → Entries → Option Entries
  | [], here, entries => change here entries
  | key :: path, _, entries =>
    alter key (fun
      | none => (descend made change path made []).map (.table made)
      | some (.value _) => none
      | some (.table origin below) =>
        if made = .dotted ∧ origin = .header then none
        else (descend made change path origin below).map (.table origin)
      | some (.tables items) =>
        (alterLast (descend made change path .header) items).map .tables) entries

/-- Give a name in a table a value, which it may not have yet. A key with dots gives values only
in tables that such keys have made, and a key without dots only in others. -/
def assignHere (hasDots : Bool) (key : String) (datum : Datum) (here : Origin)
    (entries : Entries) : Option Entries :=
  if hasDots = decide (here = .dotted) then
    alter key (fun
      | none => some (.value datum)
      | some _ => none) entries
  else none

/-- Give a key a value in a table. The last name of the key is in the table that the names before
it lead to. -/
def assign (key : List String) (datum : Datum) (here : Origin) (entries : Entries) :
    Option Entries :=
  match key.getLast? with
  | none => none
  | some last =>
    descend .dotted (assignHere (1 < key.length) last datum) key.dropLast here entries

/-- Change the table that a header path leads to, below the root. -/
def within (path : List String) (change : Origin → Entries → Option Entries)
    (root : Entries) : Option Entries :=
  descend .implied change path .header root

/-- Make the table of a header. A table that only deeper headers have made so far becomes the one
of this header. -/
def openTable (path : List String) (root : Entries) : Option Entries :=
  match path.getLast? with
  | none => none
  | some last =>
    within path.dropLast (fun _ entries =>
      alter last (fun
        | none => some (.table .header [])
        | some (.table .implied below) => some (.table .header below)
        | some _ => none) entries) root

/-- Add a table to the list of a header. -/
def openItem (path : List String) (root : Entries) : Option Entries :=
  match path.getLast? with
  | none => none
  | some last =>
    within path.dropLast (fun _ entries =>
      alter last (fun
        | none => some (.tables [[]])
        | some (.tables items) => some (.tables (items ++ [[]]))
        | some _ => none) entries) root

mutual

/-- The datum of a node. -/
def Node.toDatum : Node → Datum
  | .value datum => datum
  | .table _ entries => .table (dataOf entries)
  | .tables items => .list (tablesOf items)

/-- The data of the entries of a table. -/
def dataOf : List (String × Node) → List (String × Datum)
  | [] => []
  | (name, node) :: rest => (name, node.toDatum) :: dataOf rest

/-- The data of a list of tables. -/
def tablesOf : List (List (String × Node)) → List Datum
  | [] => []
  | entries :: rest => .table (dataOf entries) :: tablesOf rest

end

end ApiSurface.Toml
