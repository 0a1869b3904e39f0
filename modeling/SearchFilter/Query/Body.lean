import SearchFilter.Query

/-!
# Query bodies for the engine

A query tree is rendered as the document that the engine takes. Conjunctions become filters,
disjunctions optional clauses of which one has to match, and negations clauses that must not match.
An empty disjunction has its own form, because an empty list of optional clauses would match
everything.
-/

namespace SearchFilter

/-- The object with a single entry. -/
def Json.entry (key : String) (value : Json) : Json := .object [(key, value)]

namespace GeoPoint

/-- A point by the names of its parts. -/
def body (point : GeoPoint) : Json := .object [("lat", .real point.lat), ("lon", .real point.lon)]

end GeoPoint

mutual

/-- Coordinates as nested arrays, in which a point has its longitude first. -/
def Coordinates.body : Coordinates → Json
  | .point value => .array [.real value.lon, .real value.lat]
  | .list items => .array (Coordinates.bodies items)

/-- The bodies of nested coordinates, in order. -/
def Coordinates.bodies : List Coordinates → List Json
  | [] => []
  | item :: rest => Coordinates.body item :: Coordinates.bodies rest

end

namespace GeoShape

/-- A shape as the engine takes it. The radius is there only if the shape has one. -/
def body (shape : GeoShape) : Json :=
  .object (("type", .string shape.kind) :: ("coordinates", shape.coordinates.body) ::
    match shape.radius with
    | none => []
    | some radius => [("radius", .string radius)])

end GeoShape

namespace Interval

/-- The bounds of a range query, one entry for each end that there is. -/
def bodyEntries (interval : Interval) : List (String × Json) :=
  (match interval.lower with
    | .unbounded => []
    | .included value => [("gte", value.toJson)]
    | .excluded value => [("gt", value.toJson)]) ++
  (match interval.upper with
    | .unbounded => []
    | .included value => [("lte", value.toJson)]
    | .excluded value => [("lt", value.toJson)])

end Interval

namespace Query

/-- The body that every document matches. -/
def matchAllBody : Json := .entry "match_all" (.object [])

/-- The body that no document matches. -/
def matchNoneBody : Json := .entry "bool" (.entry "must_not" matchAllBody)

/-- The body that asks for any value of a field. -/
def existsBody (field : String) : Json := .entry "exists" (.entry "field" (.string field))

/-- The body that asks for a value equal to a literal. -/
def termBody (field : String) (value : Scalar) : Json := .entry "term" (.entry field value.toJson)

/-- The entry of a flag that is only written when it is set. -/
def flagEntry (name : String) (set : Bool) (value : Json) : List (String × Json) :=
  if set then [(name, value)] else []

end Query

namespace Test

/-- The body of a test on a field. A range without ends asks only for the field to be there, and an
empty list of required values asks for nothing. -/
def body (field : String) : Test → Json
  | .term value => Query.termBody field value
  | .termSet .any values => .entry "terms" (.entry field (.array (values.map Scalar.toJson)))
  | .termSet .all values =>
    if values.isEmpty then Query.matchAllBody
    else .entry "bool" (.entry "filter" (.array (values.map (Query.termBody field))))
  | .range interval =>
    if interval.bodyEntries.isEmpty then Query.existsBody field
    else .entry "range" (.entry field (.object interval.bodyEntries))
  | .present => Query.existsBody field
  | .startsWith text => .entry "prefix" (.entry field (.string text))
  | .wildcard pattern ignoreCase =>
    .entry "wildcard" (.entry field (.object
      (("value", .string pattern) :: Query.flagEntry "case_insensitive" ignoreCase (.bool true))))
  | .regexp pattern ignoreCase strict =>
    .entry "regexp" (.entry field (.object
      (("value", .string pattern) :: Query.flagEntry "flags" strict (.string "NONE") ++
        Query.flagEntry "case_insensitive" ignoreCase (.bool true))))
  | .geoDistance center distance =>
    .entry "geo_distance"
      (.object (Entries.ofPairs [(field, center.body), ("distance", .string distance)]))
  | .geoBoundingBox topLeft bottomRight =>
    .entry "geo_bounding_box" (.entry field
      (.object [("top_left", topLeft.body), ("bottom_right", bottomRight.body)]))
  | .geoPolygon points =>
    .entry "geo_polygon" (.entry field (.entry "points" (.array (points.map GeoPoint.body))))
  | .geoShape shape relation =>
    .entry "geo_shape" (.entry field
      (.object [("shape", shape.body), ("relation", .string relation.name)]))

end Test

namespace Predicate

/-- The body of a predicate: that of its test, inside a clause that must not match if the predicate
is negated. -/
def body (predicate : Predicate) : Json :=
  let test := predicate.test.body predicate.field
  if predicate.negated then .entry "bool" (.entry "must_not" (.array [test])) else test

end Predicate

namespace Query

/-- The body of a group whose members have these bodies. -/
def groupBody (connective : Connective) (members : List Json) : Json :=
  match connective with
  | .and =>
    if members.isEmpty then matchAllBody else .entry "bool" (.entry "filter" (.array members))
  | .or =>
    if members.isEmpty then matchNoneBody
    else .entry "bool" (.object [("should", .array members), ("minimum_should_match", .natural 1)])
  | .not => .entry "bool" (.entry "must_not" (.array members))

mutual

/-- The body of a query. -/
def body : Query → Json
  | .matchAll => matchAllBody
  | .group connective members => groupBody connective (bodies members)
  | .leaf predicate => predicate.body

/-- The bodies of the members of a group, in order. -/
def bodies : List Query → List Json
  | [] => []
  | query :: rest => body query :: bodies rest

end

end Query

end SearchFilter
