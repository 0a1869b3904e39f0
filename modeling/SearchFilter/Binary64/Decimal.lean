import SearchFilter.Binary64

/-!
# Decimal texts of floating-point numbers

`shortest` gives the fewest digits that read back as the same number and, of those, the digits
nearest to its exact value. It works on exact natural numbers: the reals that round to a number form
an interval, and for one, two, … seventeen digits the two neighbours of the value on that decimal
grid are tested against the interval; the first grid with a hit has the fewest digits. `Layout` then
says how the digits are spread over a text. `scan?` reads a decimal text exactly, leaving the one
rounding to `Binary64.ofDecimal`.
-/

namespace SearchFilter

/-- The value `coefficient * 10 ^ exponent`. -/
structure Decimal where
  coefficient : Nat
  exponent : Int
deriving DecidableEq, Inhabited

namespace Decimal

/-- Removes up to `places` zeros from the end of the coefficient without changing the value. -/
def trimZeros : Nat → Decimal → Decimal
  | 0, value => value
  | places + 1, value =>
    if value.coefficient % 10 = 0 then
      trimZeros places ⟨value.coefficient / 10, value.exponent + 1⟩
    else value

/-- The digits of the coefficient, most significant first. -/
def digits (value : Decimal) : List Char := Nat.toDigits 10 value.coefficient

/-- The number of digits in front of the decimal point when the value is written out; it is zero or
negative for a value below one tenth or one. -/
def point (value : Decimal) : Int := value.digits.length + value.exponent

end Decimal

namespace Binary64

/-- Where a value half-way between its two neighbours on a decimal grid goes. -/
inductive Tie
  | toEven
  | up
deriving DecidableEq

/-- The number `p` with `10 ^ (p - 1) ≤ value < 10 ^ p` for a value of the given magnitude. The
binary logarithm bounds it from below; at most two larger candidates remain. -/
def decimalPoint (magnitude : Nat) : Int :=
  let low : Int := ((magnitude.log2 : Int) - 1074) * 30103 / 100000
  let below (p : Int) : Bool := magnitude * Nat.pow 10 (-p).toNat < one * Nat.pow 10 p.toNat
  if below low then low else if below (low + 1) then low + 1 else low + 2

/-- The hit on the grid of `10 ^ exponent`, if there is one: a neighbour of the value that lies in
the interval of the reals rounding to it. The interval reaches half a unit of the last place to each
side, a quarter unit downwards at a power of two, and owns its ends when the significand is even.
All lengths are counted in quarters of `2 ^ (-1074)`, times `10 ^ (-exponent)` where the grid is
finer than one. -/
def gridHit? (tie : Tie) (x : Binary64) (exponent : Int) : Option Nat :=
  let stretch := Nat.pow 10 (-exponent).toNat
  let unit := stretch <<< (x.biasedExponent - 1)
  let value := 4 * x.magnitude * stretch
  let step := 4 * one * Nat.pow 10 exponent.toNat
  let above := 2 * unit
  let beneath := if x.fraction = 0 ∧ 1 < x.biasedExponent then unit else 2 * unit
  let closed := x.fraction % 2 = 0
  let floor := value / step
  let rest := value % step
  let floorHits : Bool := if closed then rest ≤ beneath else rest < beneath
  let ceilingHits : Bool := if closed then step - rest ≤ above else step - rest < above
  let upwards : Bool :=
    if 2 * rest = step then (match tie with | .up => true | .toEven => floor % 2 = 1)
    else step < 2 * rest
  if floorHits then some (if ceilingHits && upwards then floor + 1 else floor)
  else if ceilingHits then some (floor + 1)
  else none

/-- Tries the grids with `count`, `count + 1`, … significant digits, `more` of them, and falls back
to the last one, which is fine enough to separate any two numbers. -/
def shortestFrom (tie : Tie) (x : Binary64) (point : Int) (count : Nat) : Nat → Decimal
  | 0 =>
    ⟨x.magnitude * Nat.pow 10 (count - point).toNat / (one * Nat.pow 10 (point - count).toNat),
      point - count⟩
  | more + 1 =>
    match gridHit? tie x (point - count) with
    | some coefficient => ⟨coefficient, point - count⟩
    | none => shortestFrom tie x point (count + 1) more

/-- The shortest decimal that reads back as this finite number, its sign left out. -/
def shortest (tie : Tie) (x : Binary64) : Decimal :=
  if x.magnitude = 0 then ⟨0, 0⟩
  else Decimal.trimZeros 17 (shortestFrom tie x (decimalPoint x.magnitude) 1 17)

end Binary64

namespace Decimal

/-- The digits with the decimal point in its place, and no exponent. -/
def positional (value : Decimal) : List Char :=
  let ds := value.digits
  if 0 ≤ value.exponent then ds ++ List.replicate value.exponent.toNat '0'
  else if 0 < value.point then
    ds.take value.point.toNat ++ '.' :: ds.drop value.point.toNat
  else '0' :: '.' :: List.replicate (-value.point).toNat '0' ++ ds

/-- One digit, the other digits behind a point if there are any, and a signed exponent. -/
def scientific (value : Decimal) : List Char :=
  let exponent := value.point - 1
  let sign := if exponent < 0 then '-' else '+'
  let mantissa :=
    match value.digits with
    | [] => []
    | [d] => [d]
    | d :: rest => d :: '.' :: rest
  mantissa ++ 'e' :: sign :: Nat.toDigits 10 exponent.natAbs

end Decimal

namespace Binary64

/-- The plain text of a number in messages: always positional, no fraction for a whole number, and
the sign of a negative zero is kept. -/
def plain (x : Binary64) : String :=
  if x.isNaN then "NaN"
  else
    let body := if x.isInfinite then "inf".toList else (x.shortest .up).positional
    String.ofList (if x.negative then '-' :: body else body)

/-- The text of a finite number as a number literal of a document: positional while the decimal
exponent is between minus five and fifteen, scientific beyond, and always recognisable as a
floating-point literal by a point or an exponent. -/
def literal (x : Binary64) : List Char :=
  let value := x.shortest .toEven
  let exponent := value.point - 1
  let body :=
    if x.magnitude = 0 then "0.0".toList
    else if -5 ≤ exponent ∧ exponent ≤ 15 then
      if 0 ≤ value.exponent then value.positional ++ ['.', '0'] else value.positional
    else value.scientific
  if x.negative then '-' :: body else body

end Binary64

namespace Decimal

/-- The digits at the front of a text, and what follows them. -/
def spanDigits (text : List Char) : List Char × List Char :=
  (text.takeWhile Char.isDigit, text.dropWhile Char.isDigit)

/-- The value of a run of decimal digits. -/
def valueOf (digits : List Char) : Nat :=
  digits.foldl (fun value d => value * 10 + (d.toNat - '0'.toNat)) 0

/-- An optionally signed run of at least one digit that makes up the whole text. -/
def signedInt? (text : List Char) : Option Int :=
  let (negative, rest) :=
    match text with
    | '-' :: rest => (true, rest)
    | '+' :: rest => (false, rest)
    | _ => (false, text)
  if rest.isEmpty || !rest.all Char.isDigit then none
  else some (if negative then -(valueOf rest : Int) else valueOf rest)

/-- Reads digits with at most one point among them, at least one digit, and an optional exponent.
The digits on both sides of the point form the coefficient. -/
def scan? (text : List Char) : Option Decimal :=
  let (whole, afterWhole) := spanDigits text
  let (part, rest) :=
    match afterWhole with
    | '.' :: afterPoint => spanDigits afterPoint
    | _ => ([], afterWhole)
  if whole.isEmpty && part.isEmpty then none
  else
    let value (exponent : Int) : Decimal := ⟨valueOf (whole ++ part), exponent - part.length⟩
    match rest with
    | [] => some (value 0)
    | marker :: exponent =>
      if marker = 'e' || marker = 'E' then (signedInt? exponent).map value else none

end Decimal

namespace Binary64

/-- Reads the text of a number as people write it: an optional sign, then a decimal with an optional
exponent or one of the words for infinity and for what is not a number in any case. -/
def ofText? (text : List Char) : Option Binary64 :=
  let (negative, rest) :=
    match text with
    | '-' :: rest => (true, rest)
    | '+' :: rest => (false, rest)
    | _ => (false, text)
  let word := String.ofList (rest.map Char.toLower)
  if word = "inf" || word = "infinity" then some (infinity negative)
  else if word = "nan" then some nan
  else (Decimal.scan? rest).map fun value => ofDecimal negative value.coefficient value.exponent

end Binary64

end SearchFilter
