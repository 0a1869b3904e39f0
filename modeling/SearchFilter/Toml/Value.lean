import SearchFilter.Binary64.Decimal

/-!
# Values of configuration texts
-/

namespace SearchFilter.Toml

/-- A value of a configuration text. Integers have sixty-four bits. Of a date or a time no more is
kept than that it is one. -/
inductive Value
  | bool (value : Bool)
  | integer (value : Int)
  | real (value : Binary64)
  | string (value : String)
  | date
  | array (items : List Value)
  | table (entries : List (String × Value))
deriving Inhabited

/-- How deep arrays and inline tables may nest, and how many parts a dotted key may have. -/
def maxDepth : Nat := 79

end SearchFilter.Toml
