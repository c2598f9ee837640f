/-!
# Blank characters

The characters with the Unicode property `White_Space`, and texts without them at their ends.
-/
namespace ApiSurface.Text

/-- The character has the property `White_Space`. -/
def isBlank (c : Char) : Bool :=
  let code := c.toNat
  (0x09 ≤ code && code ≤ 0x0d) || code = 0x20 || code = 0x85 || code = 0xa0 || code = 0x1680 ||
    (0x2000 ≤ code && code ≤ 0x200a) || code = 0x2028 || code = 0x2029 || code = 0x202f ||
    code = 0x205f || code = 0x3000

theorem isBlank_of_isWhitespace {c : Char} (h : c.isWhitespace = true) : isBlank c = true := by
  simp only [Char.isWhitespace, Bool.or_eq_true, decide_eq_true_eq] at h
  rcases h with ((h | h) | h) | h <;> subst h <;> decide

/-- Drop the letters at the end that satisfy the test. -/
def dropEndWhile (p : Char → Bool) (letters : List Char) : List Char :=
  (letters.reverse.dropWhile p).reverse

/-- Drop the blanks at both ends. -/
def trim (letters : List Char) : List Char := dropEndWhile isBlank (letters.dropWhile isBlank)

end ApiSurface.Text
