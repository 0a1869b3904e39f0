import SearchFilter.Document.Leaves
import SearchFilter.Document.Places
import SearchFilter.Geo.Area
import SearchFilter.Regex
import SearchFilter.Wildcard

/-!
# Which documents a query selects

A predicate looks at all values of its field and holds if one of them passes the test; a field that
is missing passes only negated tests. Groups combine the answers of their members.
-/

namespace SearchFilter

namespace Scalar

/-- How a value of a document compares with a literal, if they are of one kind. A number of a
document that fits a signed integer meets integer literals exactly; otherwise both are
floating-point numbers. -/
def compareValue? (value : Json) (literal : Scalar) : Option Ordering :=
  match value, literal with
  | .bool a, .bool b => some (compare a b)
  | .number a, .int b =>
    match a.signed? with
    | some a => some (compare a b)
    | none => a.toBinary64.compare? (.ofInt b)
  | .number a, .float b => a.toBinary64.compare? b
  | .string a, .str b => some (compare a b)
  | _, _ => none

/-- Whether a value is equal to a literal. A value of another kind is not. -/
def equalsValue (literal : Scalar) (value : Json) : Bool :=
  compareValue? value literal = some .eq

end Scalar

namespace Bound

/-- Whether a value lies above a lower bound. -/
def isBelow (bound : Bound) (value : Json) : Bool :=
  match bound with
  | .unbounded => true
  | .included literal =>
    literal.compareValue? value = some .gt || literal.compareValue? value = some .eq
  | .excluded literal => literal.compareValue? value = some .gt

/-- Whether a value lies below an upper bound. -/
def isAbove (bound : Bound) (value : Json) : Bool :=
  match bound with
  | .unbounded => true
  | .included literal =>
    literal.compareValue? value = some .lt || literal.compareValue? value = some .eq
  | .excluded literal => literal.compareValue? value = some .lt

end Bound

namespace Interval

/-- Whether a value lies between the two bounds. -/
def contains (interval : Interval) (value : Json) : Bool :=
  interval.lower.isBelow value && interval.upper.isAbove value

end Interval

namespace Test

/-- Whether a test other than those on places holds for the values of a field. -/
def holds (test : Test) (values : List Json) : Bool :=
  match test with
  | .term value => values.any value.equalsValue
  | .termSet .any wanted =>
    values.any fun value => wanted.any fun literal => literal.equalsValue value
  | .termSet .all wanted => wanted.all fun literal => values.any literal.equalsValue
  | .range interval => values.any interval.contains
  | .present => !values.isEmpty
  | .startsWith text =>
    (values.filterMap Json.string?).any fun value => text.toList.isPrefixOf value.toList
  | .wildcard pattern ignoreCase =>
    (values.filterMap Json.string?).any (Wildcard.matchesWhole pattern ignoreCase)
  | .regexp pattern ignoreCase _ =>
    (values.filterMap Json.string?).any (Regex.matchesWhole pattern ignoreCase)
  | _ => false

/-- Whether a test is on places. -/
def isOnPlaces : Test → Bool
  | .geoDistance _ _ => true
  | .geoBoundingBox _ _ => true
  | .geoPolygon _ => true
  | .geoShape _ _ => true
  | _ => false

end Test

namespace Predicate

/-- Whether a document passes the test on its field, before any negation. -/
def hits (predicate : Predicate) (document : Json) : Bool :=
  let path := Path.segments predicate.field
  if predicate.test.isOnPlaces then Geo.holds predicate.test (document.places path)
  else predicate.test.holds (document.leaves path)

/-- Whether a document passes a predicate, its negation included. -/
def selects (predicate : Predicate) (document : Json) : Bool :=
  predicate.hits document != predicate.negated

end Predicate

namespace Query

mutual

/-- Whether a query selects a document. -/
def selects : Query → Json → Bool
  | .matchAll, _ => true
  | .group .and members, document => selectedByAll members document
  | .group .or members, document => selectedByAny members document
  | .group .not members, document => !selectedByAny members document
  | .leaf predicate, document => predicate.selects document

/-- Whether every one of several queries selects a document. -/
def selectedByAll : List Query → Json → Bool
  | [], _ => true
  | member :: members, document => selects member document && selectedByAll members document

/-- Whether one of several queries selects a document. -/
def selectedByAny : List Query → Json → Bool
  | [], _ => false
  | member :: members, document => selects member document || selectedByAny members document

end

end Query

end SearchFilter
