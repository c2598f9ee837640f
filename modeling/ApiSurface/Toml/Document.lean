import ApiSurface.Toml.Value

/-!
# TOML texts

A text is a sequence of lines: a header, a key with its value, a comment or nothing. A key belongs
to the table of the header before it.

Main definition: `datumOf?`.
-/
namespace ApiSurface.Toml

/-- What has been read of a text. -/
structure Progress where
  root : Entries
  /-- The path of the last header. -/
  header : List String

/-- Read a header of a list of tables; its first two brackets have been consumed. -/
def itemHeader (p : Progress) : Reader Progress := do
  let path ← keyPath
  expect [']', ']']
  lineEnd
  match openItem path p.root with
  | some root => pure ⟨root, path⟩
  | none => failure

/-- Read a header of a table; its first bracket has been consumed. -/
def tableHeader (p : Progress) : Reader Progress := do
  let path ← keyPath
  expect [']']
  lineEnd
  match openTable path p.root with
  | some root => pure ⟨root, path⟩
  | none => failure

/-- Read a key with its value. -/
def assignment (p : Progress) : Reader Progress := do
  let (key, datum) ← pair (value (depthLimit - 1))
  lineEnd
  match within p.header (assign key datum) p.root with
  | some root => pure { p with root }
  | none => failure

/-- Read a line. Blanks before it have been consumed. -/
def line (p : Progress) : Reader Progress := fun letters =>
  match letters with
  | '[' :: '[' :: rest => itemHeader p rest
  | '[' :: rest => tableHeader p rest
  | '#' :: _ => (lineEnd letters).map fun (_, rest) => (p, rest)
  | '\n' :: _ => (lineEnd letters).map fun (_, rest) => (p, rest)
  | '\r' :: _ => (lineEnd letters).map fun (_, rest) => (p, rest)
  | _ => assignment p letters

/-- Read all lines. -/
def linesFrom : (count : Nat) → Progress → List Char → Option Progress
  | 0, _, _ => none
  | count + 1, p, letters =>
    match letters.dropWhile isBlank with
    | [] => some p
    | c :: rest => do
      let (p, rest) ← line p (c :: rest)
      linesFrom count p rest

/-- The data that a text writes down, if it is TOML. A byte order mark at its start is skipped. -/
def datumOf? (text : String) : Option Datum := do
  let letters := match text.toList with
    | '\ufeff' :: rest => rest
    | letters => letters
  let p ← linesFrom (letters.length + 1) ⟨[], []⟩ letters
  some (.table (dataOf p.root))

end ApiSurface.Toml
