import ApiSurface.Toml.Key
import ApiSurface.Toml.Number
import ApiSurface.Toml.Table

/-!
# Values of TOML texts

Lists and tables in place hold values. The items of a list may stand on several lines, and a
comma may follow the last one; a table in place has neither liberty.

Main definition: `value`.
-/
namespace ApiSurface.Toml

/-- The rest of a list. -/
def itemsRest (item : Reader Datum) : (count : Nat) → Reader (List Datum)
  | 0 => failure
  | count + 1 => do
    skipSpace
    match ← ahead? with
    | some ']' => do
      expect [']']
      pure []
    | _ => do
      let first ← item
      skipSpace
      match ← next fun c => c = ',' || c = ']' with
      | ',' => do
        let others ← itemsRest item count
        pure (first :: others)
      | _ => pure [first]

/-- A key and its value. -/
def pair (item : Reader Datum) : Reader (List String × Datum) := do
  let key ← keyPath
  expect ['=']
  skipBlanks
  let datum ← item
  pure (key, datum)

/-- The rest of a table in place that has something in it. -/
def pairsRest (item : Reader Datum) : (count : Nat) → (entries : Entries) → Reader Entries
  | 0, _ => failure
  | count + 1, entries => do
    let (key, datum) ← pair item
    skipBlanks
    match assign key datum .header entries with
    | none => failure
    | some entries =>
      match ← next fun c => c = ',' || c = '\x7d' with
      | ',' => pairsRest item count entries
      | _ => pure entries

/-- The rest of a table in place. -/
def tableRest (item : Reader Datum) : Reader Datum := do
  skipBlanks
  match ← ahead? with
  | some '\x7d' => do
    expect ['\x7d']
    pure (.table [])
  | _ => do
    let count ← left
    let entries ← pairsRest item (count + 1) []
    pure (.table (dataOf entries))

/-- A value without parts. -/
def atom : Reader Datum := do
  match ← ahead? with
  | some '"' => Datum.string <$> string
  | some '\'' => Datum.string <$> string
  | some 't' => do
    expect "true".toList
    pure (.bool true)
  | some 'f' => do
    expect "false".toList
    pure (.bool false)
  | _ => number

/-- A value with at most so many lists and tables inside one another. -/
def value : (depth : Nat) → Reader Datum
  | 0 => atom
  | depth + 1 => do
    match ← ahead? with
    | some '[' => do
      expect ['[']
      let count ← left
      let items ← itemsRest (value depth) (count + 1)
      pure (.list items)
    | some '\x7b' => do
      expect ['\x7b']
      tableRest (value depth)
    | _ => atom

end ApiSurface.Toml
