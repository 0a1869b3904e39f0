/-!
# Operators and combinators

The closed list of operators that a field condition may use, and the keys that combine whole
sub-specifications. Every one has one canonical spelling; only negation has a second one, and a name
outside the list is never taken for an operator (`ofName?_eq_some_iff`).
-/

namespace SearchFilter

/-- An operator of a field condition. -/
inductive Operator
  | equal
  | negation
  | greater
  | greaterOrEqual
  | less
  | lessOrEqual
  | oneOf
  | allOf
  | present
  | startsWith
  | regexp
  | like
  | likeAnyCase
  | near
  | within
  | topLeft
  | bottomRight
  | topRight
  | bottomLeft
  | geoPolygon
  | geoShape
deriving DecidableEq, Inhabited

namespace Operator

/-- The canonical spelling. -/
def name : Operator → String
  | .equal => "eq"
  | .negation => "not"
  | .greater => "gt"
  | .greaterOrEqual => "gte"
  | .less => "lt"
  | .lessOrEqual => "lte"
  | .oneOf => "in"
  | .allOf => "all"
  | .present => "exists"
  | .startsWith => "prefix"
  | .regexp => "regexp"
  | .like => "like"
  | .likeAnyCase => "ilike"
  | .near => "near"
  | .within => "within"
  | .topLeft => "top_left"
  | .bottomRight => "bottom_right"
  | .topRight => "top_right"
  | .bottomLeft => "bottom_left"
  | .geoPolygon => "geo_polygon"
  | .geoShape => "geo_shape"

/-- Every operator, in the order in which they are documented. -/
def all : List Operator :=
  [.equal, .negation, .greater, .greaterOrEqual, .less, .lessOrEqual, .oneOf, .allOf, .present,
    .startsWith, .regexp, .like, .likeAnyCase, .near, .within, .topLeft, .bottomRight, .topRight,
    .bottomLeft, .geoPolygon, .geoShape]

/-- The operator with this canonical spelling. -/
def ofCanonicalName? (text : String) : Option Operator := all.find? fun op => op.name = text

/-- The operator that a text spells; negation may have an underscore in front. -/
def ofName? (text : String) : Option Operator :=
  if text = "_not" then some .negation else ofCanonicalName? text

/-- Every operator is found under its own name, so no two operators share one. -/
theorem ofCanonicalName?_name (op : Operator) : ofCanonicalName? op.name = some op := by
  cases op <;> decide

/-- A text spells an operator exactly when it is that operator's name or the second spelling of
negation. -/
theorem ofName?_eq_some_iff (text : String) (op : Operator) :
    ofName? text = some op ↔ text = op.name ∨ (text = "_not" ∧ op = .negation) := by
  unfold ofName?
  by_cases underscored : text = "_not"
  · subst underscored
    cases op <;> decide
  · simp only [underscored, if_false, false_and, or_false]
    constructor
    · intro found
      have spelled := List.find?_some found
      simp only [decide_eq_true_eq] at spelled
      exact spelled.symm
    · rintro rfl
      exact ofCanonicalName?_name op

/-- The four operators that bound a range on one side. -/
def isBound : Operator → Bool
  | .greater | .greaterOrEqual | .less | .lessOrEqual => true
  | _ => false

/-- The operators on places, the partners of other operators included. -/
def isGeo : Operator → Bool
  | .near | .within | .topLeft | .bottomRight | .topRight | .bottomLeft | .geoPolygon | .geoShape =>
    true
  | _ => false

end Operator

/-- How the members of a group are combined. The negation holds when no member does. -/
inductive Connective
  | and
  | or
  | not
deriving DecidableEq, Inhabited

namespace Connective

/-- The name of a connective in a query body. -/
def name : Connective → String
  | .and => "and"
  | .or => "or"
  | .not => "not"

/-- The connective with this name. -/
def ofName? (text : String) : Option Connective :=
  [and, or, not].find? fun connective => connective.name = text

end Connective

/-- A key that combines sub-specifications instead of naming a field. -/
inductive Combinator
  /-- A list of groups, each a list of sub-specifications that all have to hold. -/
  | and
  /-- A list of groups, each a list of sub-specifications one of which has to hold. -/
  | or
  /-- One list of sub-specifications that all have to hold. -/
  | flatAnd
  /-- One list of sub-specifications one of which has to hold. -/
  | flatOr
  /-- One sub-specification, or a list of them, none of which may hold. -/
  | not
deriving DecidableEq, Inhabited

namespace Combinator

/-- The combinator that a key of a specification spells. Lists of groups and flat lists differ by
the underscore; negation has no such difference and takes both spellings. -/
def ofKey? (key : String) : Option Combinator :=
  if key = "and" then some .and
  else if key = "or" then some .or
  else if key = "_and" then some .flatAnd
  else if key = "_or" then some .flatOr
  else if key = "not" || key = "_not" then some .not
  else none

/-- How a combinator joins its groups. Lists of groups and flat lists join alike. -/
def connective : Combinator → Connective
  | .and | .flatAnd => .and
  | .or | .flatOr => .or
  | .not => .not

end Combinator

end SearchFilter
