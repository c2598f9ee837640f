import ApiSurface.Text.Printable

/-!
# Quoted text

A text between double quotes, in which quotes, backslashes and line ends are escaped by a
backslash, and every other character that does not show by itself is written by its code point.
-/
namespace ApiSurface.Text

/-- Digits of a code point in lower-case hexadecimal, without leading zeros. -/
def hexDigits (code : Nat) : String := String.ofList (Nat.toDigits 16 code)

/-- A character as it stands between the quotes. -/
def quotedChar (c : Char) : String :=
  match c with
  | '"' => "\\\""
  | '\\' => "\\\\"
  | '\t' => "\\t"
  | '\r' => "\\r"
  | '\n' => "\\n"
  | c =>
    if c.toNat = 0 then "\\0"
    else if isExtending c || ! isPrintable c then "\\u\x7b" ++ hexDigits c.toNat ++ "\x7d"
    else c.toString

/-- The text between quotes. -/
def quoted (text : String) : String := "\"" ++ String.join (text.toList.map quotedChar) ++ "\""

end ApiSurface.Text
