import SearchFilter.Json
import SearchFilter.Binary64.Decimal
import SearchFilter.Text.Quoted

/-!
# Literals that fields are compared with

Integers and floating-point numbers are different literals even when they have the same value. An
order between two literals exists for two of one kind and for two numbers; an integer that meets a
floating-point number is first rounded to one.
-/

namespace SearchFilter

/-- A single comparable literal. -/
inductive Scalar
  | bool (value : Bool)
  | int (value : Int)
  | float (value : Binary64)
  | str (value : String)
deriving DecidableEq, Inhabited

namespace Scalar

/-- Numbers and strings can bound a range; dates are strings. What is not a number and the two truth
values cannot. -/
def isOrderable : Scalar → Bool
  | .bool _ => false
  | .int _ => true
  | .float value => !value.isNaN
  | .str _ => true

/-- Whether a literal is a floating-point number without a value, which no query may contain. -/
def isNaN : Scalar → Bool
  | .float value => value.isNaN
  | _ => false

/-- A number as a floating-point number. -/
def number? : Scalar → Option Binary64
  | .int value => some (.ofInt value)
  | .float value => some value
  | _ => none

/-- The text of a string, and nothing for any other literal. -/
def string? : Scalar → Option String
  | .str value => some value
  | _ => none

/-- The order of two literals, if they have one. Strings are ordered by their code points. -/
def compare? : Scalar → Scalar → Option Ordering
  | .int a, .int b => some (compare a b)
  | .str a, .str b => some (compare a b)
  | .bool a, .bool b => some (compare a b)
  | a, b =>
    match a.number?, b.number? with
    | some x, some y => x.compare? y
    | _, _ => none

/-- Whether two literals are of one kind and have equal values. -/
def equals : Scalar → Scalar → Bool
  | .bool a, .bool b => a == b
  | .int a, .int b => a == b
  | .float a, .float b => a.equals b
  | .str a, .str b => a == b
  | _, _ => false

/-- The literal as it stands in messages. -/
def plain : Scalar → String
  | .bool value => if value then "true" else "false"
  | .int value => toString value
  | .float value => value.plain
  | .str value => Text.quoted value

/-- A literal as a document value. -/
def toJson : Scalar → Json
  | .bool value => .bool value
  | .int value => .integer value
  | .float value => .real value
  | .str value => .string value

end Scalar

end SearchFilter
