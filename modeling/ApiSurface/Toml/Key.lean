import ApiSurface.Toml.Quoted

/-!
# Keys of TOML texts

A key is a name of letters, digits, hyphens and underscores, or a string on one line. Names with
dots between them lead through tables.

Main definition: `keyPath`.
-/
namespace ApiSurface.Toml

/-- A letter that may stand in a name without quotes. -/
def isBare (c : Char) : Bool := c.isAlphanum || c = '-' || c = '_'

/-- A name without quotes. -/
def bareKey : Reader String := fun letters =>
  let name := letters.takeWhile isBare
  if name.isEmpty then none else some (String.ofList name, letters.dropWhile isBare)

/-- One name of a key. -/
def simpleKey : Reader String := do
  match ← ahead? with
  | some '"' => String.ofList <$> basicString
  | some '\'' => String.ofList <$> literalString
  | _ => bareKey

/-- More names, each after a dot. -/
def moreKeys : (count : Nat) → Reader (List String)
  | 0 => failure
  | count + 1 => do
    skipBlanks
    let key ← simpleKey
    skipBlanks
    match ← ahead? with
    | some '.' => do
      expect ['.']
      let keys ← moreKeys count
      pure (key :: keys)
    | _ => pure [key]

/-- The number of names that a key falls short of, and of values inside one another. -/
def depthLimit : Nat := 80

/-- A key: names with dots between them, and blanks around names and dots. -/
def keyPath : Reader (List String) := do
  let count ← left
  let keys ← moreKeys (count + 1)
  if keys.length < depthLimit then pure keys else failure

end ApiSurface.Toml
