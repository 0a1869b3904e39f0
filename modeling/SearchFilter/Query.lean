import SearchFilter.Value

/-!
# Query trees

What a specification compiles to: groups of queries under a connective, with predicates on single
fields at the leaves. A predicate carries its own negation, so that the negation of a plain leaf
needs no group around it.
-/

namespace SearchFilter

/-- A place by its latitude and longitude in degrees. -/
structure GeoPoint where
  lat : Binary64
  lon : Binary64
deriving DecidableEq, Inhabited

/-- Nested coordinates of a shape: a point, or a list such as a ring or a list of rings. -/
inductive Coordinates
  | point (value : GeoPoint)
  | list (items : List Coordinates)
deriving Inhabited

/-- A shape to compare places with. The kind is in lower case; only circles use the radius. -/
structure GeoShape where
  kind : String
  coordinates : Coordinates
  radius : Option String
deriving Inhabited

/-- How the points of a field have to lie relative to a shape. -/
inductive ShapeRelation
  | intersects
  | disjoint
  | within
  | contains
deriving DecidableEq, Inhabited

namespace ShapeRelation

/-- The name of a relation in a query body. -/
def name : ShapeRelation → String
  | .intersects => "intersects"
  | .disjoint => "disjoint"
  | .within => "within"
  | .contains => "contains"

/-- The relation with exactly this name. -/
def ofName? (text : String) : Option ShapeRelation :=
  [intersects, disjoint, within, contains].find? fun relation => relation.name = text

/-- The relation that a text spells in any case. -/
def ofText? (text : String) : Option ShapeRelation :=
  ofName? (String.ofList (text.toList.map Char.toLower))

end ShapeRelation

/-- Whether one or all of a set of values have to be there. -/
inductive SetMode
  | any
  | all
deriving DecidableEq, Inhabited

/-- What a predicate asks of a field. -/
inductive Test
  | term (value : Scalar)
  | termSet (mode : SetMode) (values : List Scalar)
  | range (interval : Interval)
  | present
  | startsWith (text : String)
  /-- `*` stands for any run of characters, `?` for one, and a backslash takes the next character as
  itself. -/
  | wildcard (pattern : String) (ignoreCase : Bool)
  /-- A regular expression that has to match as a whole; `strict` turns off the engine's additional
  operators. -/
  | regexp (pattern : String) (ignoreCase strict : Bool)
  | geoDistance (center : GeoPoint) (distance : String)
  | geoBoundingBox (topLeft bottomRight : GeoPoint)
  | geoPolygon (points : List GeoPoint)
  | geoShape (shape : GeoShape) (relation : ShapeRelation)
deriving Inhabited

/-- A test on the field at a dotted path, possibly negated. -/
structure Predicate where
  field : String
  negated : Bool
  test : Test
deriving Inhabited

namespace Predicate

/-- The predicate that holds when the test does. -/
def of (field : String) (test : Test) : Predicate := ⟨field, false, test⟩

/-- Flips the negation. -/
def flip (predicate : Predicate) : Predicate := { predicate with negated := !predicate.negated }

end Predicate

/-- A tree of groups over predicates. -/
inductive Query
  | matchAll
  | group (connective : Connective) (members : List Query)
  | leaf (predicate : Predicate)
deriving Inhabited

namespace Query

/-- The predicate that a field passes a test. -/
def test (field : String) (test : Test) : Query := .leaf (.of field test)

/-- The predicate that a field fails a test. -/
def testNot (field : String) (test : Test) : Query := .leaf (Predicate.of field test).flip

/-- The logical negation. A leaf that is not negated takes the negation itself; everything else is
put into a group that negates it, a negated leaf too, which keeps a double negation visible. -/
def negate : Query → Query
  | .leaf predicate =>
    if predicate.negated then .group .not [.leaf predicate] else .leaf predicate.flip
  | query => .group .not [query]

/-- All queries together. One query needs no group. -/
def allOf : List Query → Query
  | [query] => query
  | queries => .group .and queries

end Query

end SearchFilter
