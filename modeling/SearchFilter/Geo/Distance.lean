import SearchFilter.Text.CharacterClass
import SearchFilter.Binary64.Decimal

/-!
# Distances

A distance is a number with an optional unit, and meters without one. The number is written with
digits and at most one point; neither a sign nor an exponent is allowed, and the names of units are
spelled exactly.
-/

namespace SearchFilter.Distance

/-- The units with their lengths in meters, as decimals. -/
def units : List (String × Decimal) :=
  [("nmi", ⟨1852, 0⟩), ("NM", ⟨1852, 0⟩), ("mi", ⟨1609344, -3⟩), ("miles", ⟨1609344, -3⟩),
    ("yd", ⟨9144, -4⟩), ("yards", ⟨9144, -4⟩), ("ft", ⟨3048, -4⟩), ("feet", ⟨3048, -4⟩),
    ("in", ⟨254, -4⟩), ("inch", ⟨254, -4⟩), ("km", ⟨1000, 0⟩), ("kilometers", ⟨1000, 0⟩),
    ("m", ⟨1, 0⟩), ("meters", ⟨1, 0⟩), ("cm", ⟨1, -2⟩), ("centimeters", ⟨1, -2⟩),
    ("mm", ⟨1, -3⟩), ("millimeters", ⟨1, -3⟩)]

/-- The length of a unit in meters. -/
def unit? (name : String) : Option Binary64 :=
  (units.find? fun unit => unit.1 = name).map fun unit =>
    .ofDecimal false unit.2.coefficient unit.2.exponent

/-- The radius that is used when none is given. -/
def defaultText : String := "50mi"

/-- The length in meters that a text spells. -/
def meters? (text : String) : Option Binary64 :=
  let trimmed := Text.trim text.toList
  let isNumeric (c : Char) : Bool := c.isDigit || c = '.'
  let name := String.ofList (Text.trim (trimmed.dropWhile isNumeric))
  match Decimal.scan? (trimmed.takeWhile isNumeric) with
  | none => none
  | some number =>
    let value := Binary64.ofDecimal false number.coefficient number.exponent
    if !value.isFinite then none
    else if name = "" then some value
    else (unit? name).map value.mul

end SearchFilter.Distance
