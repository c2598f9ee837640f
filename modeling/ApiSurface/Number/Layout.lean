import ApiSurface.Number.Shortest

/-!
# Writing floating-point numbers

A layout is the record of a format's own decisions: which numbers are written without an
exponent, what follows a whole number, which way ties go and how the values without digits are
written. `Layout.plain` is used in listings of instructions, `Layout.json` in documents and
`Layout.inspected` where a message shows the structure of a value.
-/
namespace ApiSurface.Number

/-- Decisions of a number format. -/
structure Layout where
  tie : Tie
  /-- Exponents of the leading digit that are written positionally; none stands for all. -/
  positional : Option (Int × Int)
  /-- Text after a whole number written positionally. -/
  wholeEnd : String
  /-- Mark before an exponent that is not negative. -/
  exponentMark : String
  nan : String
  infinite : Bool → String

/-- Never an exponent, and no point after a whole number. -/
def Layout.plain : Layout where
  tie := .up
  positional := none
  wholeEnd := ""
  exponentMark := "e"
  nan := "NaN"
  infinite negative := if negative then "-inf" else "inf"

/-- An exponent below `1e-5` and from `1e16` on, and `.0` after a whole number. What JSON has no
number for is `null`. -/
def Layout.json : Layout where
  tie := .toEven
  positional := some (-5, 15)
  wholeEnd := ".0"
  exponentMark := "e+"
  nan := "null"
  infinite _ := "null"

/-- An exponent below `1e-4` and from `1e16` on, and `.0` after a whole number. -/
def Layout.inspected : Layout where
  tie := .up
  positional := some (-4, 15)
  wholeEnd := ".0"
  exponentMark := "e"
  nan := "NaN"
  infinite negative := if negative then "-inf" else "inf"

namespace Decimal

/-- The number without an exponent. -/
def positional (d : Decimal) (wholeEnd : String) : String :=
  if d.point ≤ 0 then
    "0." ++ String.ofList (List.replicate (-d.point).toNat '0' ++ d.digits)
  else
    let count := d.point.toNat
    if d.digits.length ≤ count then
      String.ofList (d.digits ++ List.replicate (count - d.digits.length) '0') ++ wholeEnd
    else
      String.ofList (d.digits.take count) ++ "." ++ String.ofList (d.digits.drop count)

/-- The number with one digit before the point and an exponent. -/
def scientific (d : Decimal) (exponentMark : String) : String :=
  let exponent := d.point - 1
  let fraction := d.digits.drop 1
  String.ofList (d.digits.take 1) ++
    (if fraction.isEmpty then "" else "." ++ String.ofList fraction) ++
    (if exponent < 0 then "e-" else exponentMark) ++ toString exponent.natAbs

end Decimal

/-- The text of a number. -/
def Layout.text (layout : Layout) : BinaryValue → String
  | .nan => layout.nan
  | .infinite negative => layout.infinite negative
  | .zero negative => (if negative then "-0" else "0") ++ layout.wholeEnd
  | .finite negative m =>
    let d := m.shortest layout.tie
    let digits := match layout.positional with
      | none => d.positional layout.wholeEnd
      | some (least, greatest) =>
        if least ≤ d.point - 1 && d.point - 1 ≤ greatest then d.positional layout.wholeEnd
        else d.scientific layout.exponentMark
    (if negative then "-" else "") ++ digits

end ApiSurface.Number
