/-!
# Letters of TOML texts

A reader consumes letters from the front of a text. A text that is not TOML is refused without a
reason, so a reader that cannot go on just fails.

Main definitions: `Reader`, `isText`, `skipSpace`, `lineEnd`.
-/
namespace ApiSurface.Toml

/-- A computation that consumes letters and may fail. -/
abbrev Reader := StateT (List Char) Option

/-- A blank within a line. -/
def isBlank (c : Char) : Bool := c = ' ' || c = '\t'

/-- A letter that may stand in comments and between quotes: anything but control characters, and
the tab. -/
def isText (c : Char) : Bool := c = '\t' || (0x20 ≤ c.toNat && c.toNat ≠ 0x7f)

/-- The next letter, if it passes a test. -/
def next (p : Char → Bool) : Reader Char
  | [] => none
  | c :: rest => if p c then some (c, rest) else none

/-- Consume letters. -/
def expect : List Char → Reader Unit
  | [] => pure ()
  | c :: cs => do
    let _ ← next (· = c)
    expect cs

/-- The next letter, which is not consumed. -/
def ahead? : Reader (Option Char) := fun letters => some (letters.head?, letters)

/-- The number of letters left. -/
def left : Reader Nat := fun letters => some (letters.length, letters)

/-- Skip blanks. -/
def skipBlanks : Reader Unit := fun letters => some ((), letters.dropWhile isBlank)

/-- What follows the end of a line, if the line ends here. -/
def afterNewline? : List Char → Option (List Char)
  | '\n' :: rest => some rest
  | '\r' :: '\n' :: rest => some rest
  | _ => none

/-- Skip the end of a line, if the line ends here. -/
def skipNewline : Reader Unit := fun letters => some ((), (afterNewline? letters).getD letters)

/-- What follows blanks, ends of lines and comments. A comment runs to the end of its line. -/
def afterSpace : (inComment : Bool) → List Char → List Char
  | _, [] => []
  | _, '\n' :: rest => afterSpace false rest
  | _, '\r' :: '\n' :: rest => afterSpace false rest
  | true, c :: rest => if isText c then afterSpace true rest else c :: rest
  | false, c :: rest =>
    if isBlank c then afterSpace false rest
    else if c = '#' then afterSpace true rest
    else c :: rest

/-- Skip blanks, ends of lines and comments. -/
def skipSpace : Reader Unit := fun letters => some ((), afterSpace false letters)

/-- What follows a comment, if one stands here. -/
def afterComment : List Char → List Char
  | '#' :: rest => rest.dropWhile isText
  | letters => letters

/-- Consume the rest of a line, which holds no more than a comment. -/
def lineEnd : Reader Unit := fun letters =>
  match afterComment (letters.dropWhile isBlank) with
  | [] => some ((), [])
  | rest => (afterNewline? rest).map fun rest => ((), rest)

end ApiSurface.Toml
