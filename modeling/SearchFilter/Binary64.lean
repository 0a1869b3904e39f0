/-!
# Binary floating-point numbers, decoded

A double-precision number is kept as its 64 bits and read through its exact value. Every finite
number is a whole multiple of `2 ^ (-1074)`, so `scaled`, the integer that counts those units,
carries its whole meaning: numbers are compared by comparing integers, and an arithmetic result is
an exact quotient that `nearest` rounds once. The infinities decode to counts beyond those of all
finite numbers, so the order needs no case for them; only the numbers that are not a value stand
outside it.
-/

namespace SearchFilter

/-- A double-precision floating-point number in its interchange form: a sign bit, eleven bits of
biased exponent and fifty-two bits of fraction. Two numbers are the same exactly when their bits
are, which keeps the two zeros apart. -/
structure Binary64 where
  bits : UInt64
deriving DecidableEq, Inhabited

namespace Binary64

/-- The bits read as one natural number. -/
def word (x : Binary64) : Nat := x.bits.toNat

/-- The sign bit, which zeros and infinities carry too. -/
def negative (x : Binary64) : Bool := decide (0x8000000000000000 ≤ x.word)

/-- The exponent field: zero for the subnormal numbers, all ones for the infinities and for what is
not a number. -/
def biasedExponent (x : Binary64) : Nat := x.word >>> 52 % 0x800

/-- The leading one of the significand of a number that is not subnormal. The fraction field has the
fifty-two bits below it. -/
abbrev leadingOne : Nat := 0x10000000000000

/-- The fraction field, the significand without its leading one. -/
def fraction (x : Binary64) : Nat := x.word % leadingOne

/-- Whether the number is a value in the ordinary sense: no infinity and not the mark of a result
that has no value. -/
def isFinite (x : Binary64) : Bool := x.biasedExponent != 2047

/-- Whether the number is one of the two infinities. -/
def isInfinite (x : Binary64) : Bool := x.biasedExponent == 2047 && x.fraction == 0

/-- Whether the bits stand for no number at all. There are many such patterns, and none of them is
equal to anything. -/
def isNaN (x : Binary64) : Bool := x.biasedExponent == 2047 && x.fraction != 0

/-- The distance from zero in units of `2 ^ (-1074)`. For an infinity it is the first power of two
that no finite number reaches. -/
def magnitude (x : Binary64) : Nat :=
  if x.biasedExponent = 0 then x.fraction
  else (leadingOne + x.fraction) <<< (x.biasedExponent - 1)

/-- The exact value in units of `2 ^ (-1074)`. -/
def scaled (x : Binary64) : Int :=
  if x.negative then -(x.magnitude : Int) else x.magnitude

/-- The number of units of `2 ^ (-1074)` in one. -/
def one : Nat := 1 <<< 1074

/-- The order of two numbers by their values; the two zeros are equal, and what is not a number
compares with nothing, not even with itself. -/
def compare? (x y : Binary64) : Option Ordering :=
  if x.isNaN || y.isNaN then none else some (compare x.scaled y.scaled)

/-- Equality by value: the two zeros are equal, and what is not a number is equal to nothing. -/
def equals (x y : Binary64) : Bool := x.compare? y == some .eq

/-- The strict order by value, false as soon as one side is not a number. -/
def less (x y : Binary64) : Bool := x.compare? y == some .lt

/-- The order by value with equality. It is not the negation of the strict order the other way
round, since both fail where one side is not a number. -/
def atMost (x y : Binary64) : Bool := x.less y || x.equals y

/-- The one value used for everything that is not a number. -/
def nan : Binary64 := ⟨0x7ff8000000000000⟩

/-- The infinity with a given sign. -/
def infinity (negative : Bool) : Binary64 :=
  ⟨if negative then 0xfff0000000000000 else 0x7ff0000000000000⟩

/-- The zero with a clear sign bit. -/
def zero : Binary64 := ⟨0⟩

/-- Writes a magnitude that has at most fifty-three significant bits as a number. A magnitude that
is out of range becomes an infinity. -/
def ofMagnitude (negative : Bool) (magnitude : Nat) : Binary64 :=
  let sign := if negative then 0x8000000000000000 else 0
  if magnitude < leadingOne then ⟨(sign + magnitude).toUInt64⟩
  else
    let shift := magnitude.log2 - 52
    if 2045 < shift then infinity negative
    else ⟨(sign + (shift + 1) <<< 52 + (magnitude >>> shift - leadingOne)).toUInt64⟩

/-- The integer nearest to a quotient; a half goes to the even neighbour. -/
def roundHalfEven (numerator denominator : Nat) : Nat :=
  let quotient := numerator / denominator
  let twice := 2 * (numerator % denominator)
  if twice < denominator then quotient
  else if denominator < twice then quotient + 1
  else quotient + quotient % 2

/-- The number nearest to an exact quotient. The unit of the last place is found first: it is the
finest one, `2 ^ (-1074)`, until the quotient has more than fifty-three bits in that unit, and then
the power of two that leaves it fifty-three. -/
def nearest (negative : Bool) (numerator denominator : Nat) : Binary64 :=
  let units := numerator * one
  let shift := (units / denominator).log2 - 52
  ofMagnitude negative (roundHalfEven units (denominator <<< shift) <<< shift)

/-- The number nearest to an integer. -/
def ofInt (value : Int) : Binary64 := nearest (decide (value < 0)) value.natAbs 1

/-- The number nearest to `coefficient * 10 ^ exponent`. Values far outside the range of all finite
numbers are settled by their size, so that a huge exponent costs nothing: ten binary digits count at
least three decimal ones, and a decimal digit counts at least three binary ones. -/
def ofDecimal (negative : Bool) (coefficient : Nat) (exponent : Int) : Binary64 :=
  let fewest : Int := (coefficient.log2 / 10 * 3 : Nat)
  let most : Int := (coefficient.log2 / 3 + 1 : Nat)
  if coefficient = 0 then ofMagnitude negative 0
  else if 400 < fewest + exponent then infinity negative
  else if most + exponent < -400 then ofMagnitude negative 0
  else nearest negative (coefficient * Nat.pow 10 exponent.toNat) (Nat.pow 10 (-exponent).toNat)

/-- The exact product of two finite numbers, rounded once. A product with an infinity is infinite
unless the other factor is zero. -/
def mul (x y : Binary64) : Binary64 :=
  let negative := x.negative != y.negative
  if x.isNaN || y.isNaN then nan
  else if x.isFinite && y.isFinite then nearest negative (x.magnitude * y.magnitude) (one * one)
  else if x.magnitude = 0 || y.magnitude = 0 then nan
  else infinity negative

/-- The machine number with the same bits, for the functions that only the machine provides. -/
def toFloat (x : Binary64) : Float := Float.ofBits x.bits

/-- The machine number with the same bits, decoded. -/
def ofFloat (x : Float) : Binary64 := ⟨x.toBits⟩

end Binary64

end SearchFilter
