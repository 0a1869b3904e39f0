import SearchFilter.Matching
import SearchFilter.Query.Body
import SearchFilter.Proofs.Meaning

/-!
# The meaning of query bodies

What the engine takes a body to say of a document, read off the body alone. A body that is no part
of the language has no meaning. A `bool` body is the conjunction of its clauses: filters all hold,
of optional clauses one has to hold where one is asked for, and no negated clause may hold, given as
one body or as a list of them. Terms and ranges compare the values of their field with the literals
in the body; the tests on texts and on places are rebuilt from their parameters and asked as the
evaluator asks them.

Points name their parts, but the coordinates of shapes are arrays, in which a pair of numbers is a
point with its longitude first and every other array nests.
-/

namespace SearchFilter

namespace Dsl

/-! ### Parameters -/

/-- The literal that a value in a body stands for. An integer and a floating-point number are told
apart by how they are written. -/
def literal? : Json → Option Scalar
  | .bool value => some (.bool value)
  | .number (.integer value) => some (.int value)
  | .number (.real value) => some (.float value)
  | .string value => some (.str value)
  | _ => none

/-- The bound that an entry of a range body stands for. -/
def edge? : String × Json → Option Edge
  | (name, value) => do Edge.of? (← Operator.ofCanonicalName? name) (← literal? value)

/-- Reads a point by the names of its parts. -/
def point? (body : Json) : Option GeoPoint := do
  return ⟨← (← body.member? "lat").binary64?, ← (← body.member? "lon").binary64?⟩

mutual

/-- Reads the coordinates of a shape. An array of exactly two numbers is a point, and every other
array nests. -/
def coordinates? : Json → Option Coordinates
  | .array [.number lon, .number lat] => some (.point ⟨lat.toBinary64, lon.toBinary64⟩)
  | .array items => (allCoordinates? items).map .list
  | _ => none

/-- Reads nested coordinates in order, all of which have to be well formed. -/
def allCoordinates? : List Json → Option (List Coordinates)
  | [] => some []
  | item :: rest => do
    let first ← coordinates? item
    return first :: (← allCoordinates? rest)

end

/-- Reads a shape. Its radius may be missing. -/
def shape? (body : Json) : Option GeoShape := do
  let kind ← (← body.member? "type").string?
  let coordinates ← coordinates? (← body.member? "coordinates")
  return ⟨kind, coordinates, (body.member? "radius").bind Json.string?⟩

/-- The pattern of a text test with its case flag, which is off unless it is given. -/
def pattern? (options : Json) : Option (String × Bool) := do
  let pattern ← (← options.member? "value").string?
  return (pattern, ((options.member? "case_insensitive").bind Json.bool?).getD false)

/-- The test of a body that asks about the texts or the places of a field. In a distance body the
field is the entry that is not called `distance`. -/
def predicate? : String → List (String × Json) → Option Predicate
  | "prefix", [(field, .string text)] => some (.of field (.startsWith text))
  | "wildcard", [(field, options)] => do
    let (pattern, ignoreCase) ← pattern? options
    return .of field (.wildcard pattern ignoreCase)
  | "regexp", [(field, options)] => do
    let (pattern, ignoreCase) ← pattern? options
    return .of field (.regexp pattern ignoreCase (options.member? "flags").isSome)
  | "geo_distance", entries => do
    let distance ← (← Entries.find? "distance" entries).string?
    let (field, center) ← entries.find? fun entry => entry.1 ≠ "distance"
    return .of field (.geoDistance (← point? center) distance)
  | "geo_bounding_box", [(field, corners)] => do
    let topLeft ← point? (← corners.member? "top_left")
    let bottomRight ← point? (← corners.member? "bottom_right")
    return .of field (.geoBoundingBox topLeft bottomRight)
  | "geo_polygon", [(field, polygon)] => do
    let corners ← (← polygon.member? "points").array?
    return .of field (.geoPolygon (← corners.mapM point?))
  | "geo_shape", [(field, operand)] => do
    let shape ← shape? (← operand.member? "shape")
    let relation ← ShapeRelation.ofName? (← (← operand.member? "relation").string?)
    return .of field (.geoShape shape relation)
  | _, _ => none

/-! ### Bodies -/

/-- What a body other than a `bool` body says of a document. -/
def holdsLeaf (document : Json) : String → List (String × Json) → Option Bool
  | "match_all", [] => some true
  | "exists", [("field", .string field)] =>
    some !(document.leaves (Path.segments field)).isEmpty
  | "term", [(field, value)] => do
    let literal ← literal? value
    return (document.leaves (Path.segments field)).any literal.equalsValue
  | "terms", [(field, .array values)] => do
    let literals ← values.mapM literal?
    return (document.leaves (Path.segments field)).any fun value =>
      literals.any fun literal => literal.equalsValue value
  | "range", [(field, .object bounds)] => do
    let edges ← bounds.mapM edge?
    return (document.leaves (Path.segments field)).any fun value =>
      edges.all fun edge => edge.admits value
  | kind, entries => (predicate? kind entries).map fun predicate => predicate.hits document

/-- Whether the clauses after the optional ones ask for one of these to hold. -/
def asksForOne : List (String × Json) → Bool
  | (name, .number (.integer count)) :: _ => name = "minimum_should_match" && count = 1
  | _ => false

mutual

/-- Whether a document matches a body, if the body belongs to the language. -/
def holds? (document : Json) : Json → Option Bool
  | .object [("bool", .object clauses)] => clausesHold? document clauses
  | .object [(kind, .object entries)] => holdsLeaf document kind entries
  | _ => none

/-- Whether a document satisfies all clauses of a `bool` body. -/
def clausesHold? (document : Json) : List (String × Json) → Option Bool
  | [] => some true
  | ("filter", .array bodies) :: rest => do
    return (← allHold? document bodies) && (← clausesHold? document rest)
  | ("must_not", .array bodies) :: rest => do
    return !(← anyHolds? document bodies) && (← clausesHold? document rest)
  | ("must_not", body) :: rest => do
    return !(← holds? document body) && (← clausesHold? document rest)
  | ("should", .array bodies) :: rest =>
    if asksForOne rest then do
      return (← anyHolds? document bodies) && (← clausesHold? document rest)
    else none
  | ("minimum_should_match", _) :: rest => clausesHold? document rest
  | _ => none

/-- Whether all bodies hold of a document. One without a meaning leaves all of them without one. -/
def allHold? (document : Json) : List Json → Option Bool
  | [] => some true
  | body :: rest => do return (← holds? document body) && (← allHold? document rest)

/-- Whether one of the bodies holds of a document. One without a meaning leaves all of them without
one, even if another one holds. -/
def anyHolds? (document : Json) : List Json → Option Bool
  | [] => some false
  | body :: rest => do return (← holds? document body) || (← anyHolds? document rest)

end

end Dsl

end SearchFilter
