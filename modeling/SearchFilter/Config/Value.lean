import SearchFilter.Text.Quoted
import SearchFilter.Toml.Value

/-!
# Values of settings

What a setting can be given as, in a configuration text or in the environment.
-/

namespace SearchFilter.Config

/-- A value given for a setting. What arrays and tables hold does not matter, since no setting takes
one. -/
inductive Value
  | bool (value : Bool)
  | integer (value : Int)
  | real (value : Binary64)
  | text (value : String)
  | array
  | table
deriving DecidableEq, Inhabited

namespace Value

/-- The value as it stands in messages. -/
def given : Value → String
  | .bool value => if value then "found bool true" else "found bool false"
  | .integer value => "found signed int `" ++ toString value ++ "`"
  | .real value => "found float `" ++ value.plain ++ "`"
  | .text value => "found string " ++ Text.quoted value
  | .array => "found sequence"
  | .table => "found map"

/-- What a value of a configuration text is as a setting. Of arrays, tables and dates only the kind
is kept, because no setting takes one. -/
def ofToml : Toml.Value → Value
  | .bool value => .bool value
  | .integer value => .integer value
  | .real value => .real value
  | .string value => .text value
  | .date => .table
  | .array _ => .array
  | .table _ => .table

end Value

/-- Settings with their values, as one source gives them. -/
abbrev Layer := List (String × Value)

end SearchFilter.Config
