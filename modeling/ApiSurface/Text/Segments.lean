/-!
# Segments of names and paths

Internal names, packages and request paths are segments between slashes.

Main definitions: `segments`, `joinSegments`, `simpleName`.
-/
namespace ApiSurface.Text

/-- The pieces of a text between occurrences of a separator; there is always at least one. -/
def segments (separator : Char) : List Char → List (List Char)
  | [] => [[]]
  | c :: rest =>
    if c = separator then [] :: segments separator rest
    else match segments separator rest with
      | [] => [[c]]
      | first :: others => (c :: first) :: others

/-- Pieces with a separator between each two of them. -/
def joinSegments (separator : Char) : List (List Char) → List Char
  | [] => []
  | [piece] => piece
  | piece :: others => piece ++ separator :: joinSegments separator others

theorem segments_ne_nil (separator : Char) (text : List Char) : segments separator text ≠ [] := by
  cases text with
  | nil => simp [segments]
  | cons c rest => simp only [segments]; split <;> (try split) <;> simp

/-- Joining undoes cutting. -/
theorem joinSegments_segments (separator : Char) (text : List Char) :
    joinSegments separator (segments separator text) = text := by
  induction text with
  | nil => rfl
  | cons c rest ih =>
    simp only [segments]
    split
    · next h =>
      obtain ⟨first, others, hs⟩ := List.exists_cons_of_ne_nil (segments_ne_nil separator rest)
      rw [hs] at ih ⊢
      simp [joinSegments, ih, h]
    · split
      · next hs => exact absurd hs (segments_ne_nil separator rest)
      · next first others hs =>
        rw [hs] at ih
        cases others <;> simp_all [joinSegments]

/-- What follows the last slash of a name. -/
def simpleName (name : String) : String :=
  String.ofList (name.toList.reverse.takeWhile (· ≠ '/')).reverse

end ApiSurface.Text
