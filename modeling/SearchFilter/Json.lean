import SearchFilter.Binary64
import SearchFilter.Entries

/-!
# Document values

The values that documents, rendered queries and textual specifications are made of. A number keeps
whether it was written as an integer, because integers of sixty-four bits are exact and all other
numbers are floating-point; objects keep the order of their keys.
-/

namespace SearchFilter

/-- A number of a document: an integer of at most sixty-four bits, signed or unsigned, or a
floating-point number. -/
inductive Number
  | integer (value : Int)
  | real (value : Binary64)
deriving DecidableEq, Inhabited

namespace Number

/-- The bounds of the signed integers of sixty-four bits. -/
def fitsSigned (value : Int) : Bool :=
  -0x8000000000000000 ≤ value && value ≤ 0x7fffffffffffffff

/-- The bounds of the integers that a document can spell exactly. -/
def fitsDocument (value : Int) : Bool :=
  -0x8000000000000000 ≤ value && value ≤ 0xffffffffffffffff

/-- The number as a signed integer of sixty-four bits, if it is written as one. -/
def signed? : Number → Option Int
  | integer value => if fitsSigned value then some value else none
  | real _ => none

/-- The nearest floating-point number. -/
def toBinary64 : Number → Binary64
  | integer value => .ofInt value
  | real value => value

end Number

/-- A document value. The entries of an object are in the order of their first appearance, and no
key appears twice in an object that was read from text. -/
inductive Json
  | null
  | bool (value : Bool)
  | number (value : Number)
  | string (value : String)
  | array (items : List Json)
  | object (entries : List (String × Json))
deriving Inhabited

namespace Json

/-- An integer as a document value. -/
def integer (value : Int) : Json := .number (.integer value)

/-- A count as a document value. -/
def natural (value : Nat) : Json := .number (.integer value)

/-- A floating-point number as a document value. Infinities and what is not a number have no
spelling in a document and become null. -/
def real (value : Binary64) : Json := if value.isFinite then .number (.real value) else .null

/-- The text of a string, and nothing for any other value. -/
def string? : Json → Option String
  | .string value => some value
  | _ => none

/-- The truth value of a boolean, and nothing for any other value. -/
def bool? : Json → Option Bool
  | .bool value => some value
  | _ => none

/-- The items of an array, and nothing for any other value. -/
def array? : Json → Option (List Json)
  | .array items => some items
  | _ => none

/-- The members of an object, and nothing for any other value. -/
def object? : Json → Option (List (String × Json))
  | .object entries => some entries
  | _ => none

/-- The number as a floating-point number, rounded if it is an integer with too many bits. -/
def binary64? : Json → Option Binary64
  | .number value => some value.toBinary64
  | _ => none

/-- The member of an object under a key. -/
def member? (key : String) : Json → Option Json
  | .object entries => Entries.find? key entries
  | _ => none

end Json

end SearchFilter
