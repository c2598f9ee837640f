import ApiSurface.Toml.Letters

/-!
# Strings of TOML texts

Strings stand in double quotes, where a backslash starts an escape, or in single quotes, where it
does not. Three quotes open a string that may run over several lines; an end of line right after
them is not part of it, and up to two quotes may stand before the three that close it.

Loops count down the letters that are left.

Main definition: `string`.
-/
namespace ApiSurface.Toml

/-- The value of a hexadecimal digit. -/
def hexValue? (c : Char) : Option Nat :=
  if '0' ≤ c ∧ c ≤ '9' then some (c.toNat - 0x30)
  else if 'a' ≤ c ∧ c ≤ 'f' then some (c.toNat - 0x57)
  else if 'A' ≤ c ∧ c ≤ 'F' then some (c.toNat - 0x37)
  else none

/-- The number of so many hexadecimal digits. -/
def hexNumber : (digits : Nat) → (value : Nat) → Reader Nat
  | 0, value => pure value
  | digits + 1, value => do
    let c ← next fun _ => true
    match hexValue? c with
    | some digit => hexNumber digits (value * 16 + digit)
    | none => failure

/-- The character of a number that so many hexadecimal digits write. -/
def codedCharacter (digits : Nat) : Reader Char := do
  let code ← hexNumber digits 0
  if code.isValidChar then pure (Char.ofNat code) else failure

/-- The character that an escape stands for; the backslash has been consumed. -/
def escaped : Reader Char := do
  match ← next fun _ => true with
  | 'b' => pure '\x08'
  | 't' => pure '\t'
  | 'n' => pure '\n'
  | 'f' => pure '\x0c'
  | 'r' => pure '\r'
  | '"' => pure '"'
  | '\\' => pure '\\'
  | 'u' => codedCharacter 4
  | 'U' => codedCharacter 8
  | _ => failure

/-- The rest of a string in double quotes. -/
def basicRest : (count : Nat) → Reader (List Char)
  | 0 => failure
  | count + 1 => do
    let c ← next isText
    if c = '"' then pure []
    else do
      let c ← if c = '\\' then escaped else pure c
      let others ← basicRest count
      pure (c :: others)

/-- A string in double quotes on one line. -/
def basicString : Reader (List Char) := do
  expect ['"']
  let count ← left
  basicRest count

/-- A string in single quotes on one line. -/
def literalString : Reader (List Char) := fun letters =>
  match letters with
  | '\'' :: rest =>
    match rest.dropWhile fun c => isText c && c ≠ '\'' with
    | '\'' :: after => some (rest.takeWhile fun c => isText c && c ≠ '\'', after)
    | _ => none
  | _ => none

/-- What follows a backslash at the end of a line, blanks, and lines without anything else. -/
def afterContinuation? (letters : List Char) : Option (List Char) :=
  (afterNewline? (letters.dropWhile isBlank)).map skip
where
  /-- Skip blanks and ends of lines. -/
  skip : List Char → List Char
    | '\n' :: rest => skip rest
    | '\r' :: '\n' :: rest => skip rest
    | c :: rest => if isBlank c then skip rest else c :: rest
    | [] => []

/-- What a string over several lines ends with, and what follows it, if it ends here: one or two
quotes may stand before the three that close it. -/
def closing? (quote : Char) (letters : List Char) : Option (List Char × List Char) :=
  let quotes := letters.take 5 |>.takeWhile (· = quote)
  if 3 ≤ quotes.length then some (quotes.drop 3, letters.drop quotes.length) else none

/-- The rest of a string over several lines. -/
def linesRest (quote : Char) (hasEscapes : Bool) : (count : Nat) → Reader (List Char)
  | 0, _ => none
  | count + 1, letters =>
    match closing? quote letters, afterNewline? letters with
    | some closed, _ => some closed
    | none, some rest => (linesRest quote hasEscapes count rest).map fun (cs, rest) =>
      ('\n' :: cs, rest)
    | none, none => match letters with
      | [] => none
      | c :: rest =>
        if hasEscapes ∧ c = '\\' then
          match afterContinuation? rest with
          | some rest => linesRest quote hasEscapes count rest
          | none => do
            let (c, rest) ← escaped rest
            let (cs, rest) ← linesRest quote hasEscapes count rest
            some (c :: cs, rest)
        else if isText c then
          (linesRest quote hasEscapes count rest).map fun (cs, rest) => (c :: cs, rest)
        else none

/-- A string over several lines, opened by three quotes. -/
def linesString (quote : Char) (hasEscapes : Bool) : Reader (List Char) := do
  expect [quote, quote, quote]
  skipNewline
  let count ← left
  linesRest quote hasEscapes (count + 1)

/-- A string in any of its forms. -/
def string : Reader String := fun letters =>
  let form := match letters with
    | '"' :: '"' :: '"' :: _ => linesString '"' true
    | '"' :: _ => basicString
    | '\'' :: '\'' :: '\'' :: _ => linesString '\'' false
    | _ => literalString
  (form letters).map fun (cs, rest) => (String.ofList cs, rest)

end ApiSurface.Toml
