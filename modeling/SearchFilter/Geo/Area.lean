import SearchFilter.Geo.Distance
import SearchFilter.Geo.Plane
import SearchFilter.Geo.Sphere

/-!
# Areas that places are compared with

Every test on places selects an area: a single place, boxes, polygons or a circle. A place meets an
area if it lies inside it or on its boundary, and the area surrounds the place if it lies strictly
inside.
-/

namespace SearchFilter.Geo

/-- A part of the globe. -/
inductive Area
  | place (target : GeoPoint)
  | boxes (parts : List Box)
  | polygons (parts : List Polygon)
  /-- The places within a radius in meters. -/
  | circle (center : GeoPoint) (radius : Binary64)
deriving Inhabited

/-- The points of a list of points. -/
def points? : Coordinates → Option (List GeoPoint)
  | .point _ => none
  | .list items =>
    items.mapM fun item =>
      match item with
      | .point value => some value
      | .list _ => none

/-- The polygon that a list of rings describes, the outer ring first. -/
def polygon? : Coordinates → Option Polygon
  | .list (outer :: holes) => do
    let outer ← points? outer
    let holes ← holes.mapM points?
    return .of outer holes
  | _ => none

namespace Area

/-- The area of a shape. Not every kind of shape has one, and the coordinates have to nest as the
kind asks for. -/
def ofShape? (shape : GeoShape) : Option Area :=
  match shape.kind, shape.coordinates with
  | "point", .point target => some (.place target)
  | "envelope", coordinates =>
    match points? coordinates with
    | some [topLeft, bottomRight] => some (.boxes (Box.ofCorners topLeft bottomRight))
    | _ => none
  | "polygon", rings => (polygon? rings).map fun polygon => .polygons [polygon]
  | "multipolygon", .list members => (members.mapM polygon?).map .polygons
  | "circle", .point center => (shape.radius.bind Distance.meters?).map (.circle center)
  | _, _ => none

/-- The area that a test selects, if it is a test on places. -/
def ofTest? : Test → Option Area
  | .geoDistance center distance => (Distance.meters? distance).map (.circle center)
  | .geoBoundingBox topLeft bottomRight => some (.boxes (Box.ofCorners topLeft bottomRight))
  | .geoPolygon points => some (.polygons [.of points []])
  | .geoShape shape _ => ofShape? shape
  | _ => none

/-- Whether a place lies inside an area or on its boundary. -/
def meets (area : Area) (place : GeoPoint) : Bool :=
  match area with
  | .place target => target.equals place
  | .boxes parts => parts.any fun box => box.position place ≠ .outside
  | .polygons parts => parts.any fun polygon => polygon.position place ≠ .outside
  | .circle center radius => (distance center place).atMost radius

/-- Whether a place lies strictly inside an area. A single place has itself inside. -/
def surrounds (area : Area) (place : GeoPoint) : Bool :=
  match area with
  | .place target => target.equals place
  | .boxes parts => parts.any fun box => box.position place = .inside
  | .polygons parts => parts.any fun polygon => polygon.position place = .inside
  | .circle center radius => (distance center place).less radius

/-- Whether places lie relative to an area as a relation asks. Without any place no relation holds,
and only a single place can be contained in what a field holds. -/
def relates (area : Area) (relation : ShapeRelation) (places : List GeoPoint) : Bool :=
  !places.isEmpty &&
    match relation with
    | .intersects => places.any area.meets
    | .within => places.all area.surrounds
    | .disjoint => !places.any area.meets
    | .contains =>
      match area with
      | .place target => places.any target.equals
      | _ => false

end Area

/-- Whether a test on places holds for the places of a field. -/
def holds (test : Test) (places : List GeoPoint) : Bool :=
  match Area.ofTest? test with
  | none => false
  | some area =>
    match test with
    | .geoShape _ relation => area.relates relation places
    | _ => places.any area.meets

end SearchFilter.Geo
