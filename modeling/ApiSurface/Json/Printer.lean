import ApiSurface.Json.Basic

/-!
# Printing JSON

Two forms: compact, without any blanks, and indented by two spaces, with a value on each line and
empty arrays and objects closed on their line. Strings are written as they are but for quotes,
backslashes and control characters.

Main definitions: `Json.quoted`, `Json.compact`, `Json.pretty`.
-/
namespace ApiSurface.Json

/-- A lower-case hexadecimal digit. -/
def hexDigit (n : Nat) : Char := Char.ofNat (if n < 10 then 0x30 + n else 0x57 + n)

/-- A character as it stands in a string. -/
def quotedChar (c : Char) : List Char :=
  match c with
  | '"' => ['\\', '"']
  | '\\' => ['\\', '\\']
  | '\n' => ['\\', 'n']
  | '\r' => ['\\', 'r']
  | '\t' => ['\\', 't']
  | c =>
    if c.toNat = 0x08 then ['\\', 'b']
    else if c.toNat = 0x0c then ['\\', 'f']
    else if c.toNat < 0x20 then
      ['\\', 'u', '0', '0', hexDigit (c.toNat / 16), hexDigit (c.toNat % 16)]
    else [c]

/-- A string in quotes. -/
def quoted (text : String) : String :=
  "\"" ++ String.ofList (text.toList.flatMap quotedChar) ++ "\""

/-- The text of a value that has no parts. -/
def atom : Json → String
  | null => "null"
  | bool value => if value then "true" else "false"
  | int value => toString value
  | number value => Number.Layout.json.text value
  | string value => quoted value
  | array _ => "[]"
  | object _ => "\x7b\x7d"

mutual

/-- The value without blanks. -/
def compact : Json → String
  | array items => "[" ++ String.intercalate "," (compactItems items) ++ "]"
  | object members => "\x7b" ++ String.intercalate "," (compactMembers members) ++ "\x7d"
  | other => other.atom

/-- The items of an array without blanks. -/
def compactItems : List Json → List String
  | [] => []
  | item :: items => item.compact :: compactItems items

/-- The members of an object without blanks. -/
def compactMembers : List (String × Json) → List String
  | [] => []
  | (key, value) :: members => (quoted key ++ ":" ++ value.compact) :: compactMembers members

end

/-- The start of a line at a depth. -/
def indent (depth : Nat) : String := "\n" ++ String.ofList (List.replicate (2 * depth) ' ')

/-- Lines between brackets, which open at a depth; the brackets alone if there are none. -/
def block (opening closing : String) (depth : Nat) (lines : List String) : String :=
  if lines.isEmpty then opening ++ closing
  else
    opening ++ String.intercalate "," (lines.map (indent (depth + 1) ++ ·)) ++
      indent depth ++ closing

mutual

/-- The value on indented lines, from a depth on. -/
def prettyAt (depth : Nat) : Json → String
  | array items => block "[" "]" depth (prettyItems (depth + 1) items)
  | object members => block "\x7b" "\x7d" depth (prettyMembers (depth + 1) members)
  | other => other.atom

/-- The items of an array on indented lines. -/
def prettyItems (depth : Nat) : List Json → List String
  | [] => []
  | item :: items => item.prettyAt depth :: prettyItems depth items

/-- The members of an object on indented lines. -/
def prettyMembers (depth : Nat) : List (String × Json) → List String
  | [] => []
  | (key, value) :: members =>
    (quoted key ++ ": " ++ value.prettyAt depth) :: prettyMembers depth members

end

/-- The value on indented lines. -/
def pretty (value : Json) : String := value.prettyAt 0

end ApiSurface.Json
