import SearchFilter.Query

/-!
# Boxes and polygons on the map

Longitudes and latitudes as coordinates of a plane. A place lies outside a region, on its boundary
or inside it. On which side of an edge a place lies is decided on the exact values of the
coordinates, so rounding never moves a place across a boundary.
-/

namespace SearchFilter

namespace GeoPoint

/-- Whether two places have equal coordinates. -/
def equals (place other : GeoPoint) : Bool :=
  place.lat.equals other.lat && place.lon.equals other.lon

/-- Whether both coordinates are finite. -/
def isFinite (place : GeoPoint) : Bool := place.lat.isFinite && place.lon.isFinite

end GeoPoint

namespace Geo

/-- Where a place lies relative to a region. -/
inductive Position
  | outside
  | boundary
  | inside
deriving DecidableEq, Inhabited

/-- A box between two longitudes and two latitudes. -/
structure Box where
  west : Binary64
  east : Binary64
  south : Binary64
  north : Binary64
deriving DecidableEq, Inhabited

namespace Box

/-- The box between two longitudes and two latitudes, each pair in either order. -/
def between (longitude otherLongitude latitude otherLatitude : Binary64) : Box :=
  let (west, east) :=
    if longitude.less otherLongitude then (longitude, otherLongitude)
    else (otherLongitude, longitude)
  let (south, north) :=
    if latitude.less otherLatitude then (latitude, otherLatitude) else (otherLatitude, latitude)
  ⟨west, east, south, north⟩

/-- The boxes between a top left and a bottom right corner: two of them, which meet at the longitude
of 180 degrees, where the left corner lies to the east of the right one. -/
def ofCorners (topLeft bottomRight : GeoPoint) : List Box :=
  let wrap (west east : Binary64) := between west east bottomRight.lat topLeft.lat
  if topLeft.lon.atMost bottomRight.lon then [wrap topLeft.lon bottomRight.lon]
  else [wrap topLeft.lon (.ofInt 180), wrap (.ofInt (-180)) bottomRight.lon]

/-- Where a place lies relative to a box. -/
def position (box : Box) (place : GeoPoint) : Position :=
  if box.west.less place.lon && place.lon.less box.east && box.south.less place.lat &&
      place.lat.less box.north then .inside
  else if box.west.atMost place.lon && place.lon.atMost box.east && box.south.atMost place.lat &&
      place.lat.atMost box.north then .boundary
  else .outside

end Box

/-- An edge of a ring, from one corner to the next. -/
structure Edge where
  start : GeoPoint
  stop : GeoPoint
deriving DecidableEq, Inhabited

namespace Edge

/-- Twice the signed area of the triangle from the edge to a place: positive where the place lies to
the left of the edge, negative to the right, and zero on the line through it. -/
def side (edge : Edge) (place : GeoPoint) : Int :=
  (edge.start.lon.scaled - place.lon.scaled) * (edge.stop.lat.scaled - place.lat.scaled) -
    (edge.start.lat.scaled - place.lat.scaled) * (edge.stop.lon.scaled - place.lon.scaled)

/-- Whether a longitude lies between the ends of the edge. -/
def spans (edge : Edge) (longitude : Binary64) : Bool :=
  let (west, east) :=
    if edge.start.lon.less edge.stop.lon then (edge.start.lon, edge.stop.lon)
    else (edge.stop.lon, edge.start.lon)
  west.atMost longitude && longitude.atMost east

/-- How often the edge winds around a place: once for an upward edge that passes to its right, minus
once for a downward one. An upward edge counts with its start and without its end, a downward one
the other way round, so a corner is counted once. There is no answer for a place on the edge. -/
def winding? (edge : Edge) (place : GeoPoint) : Option Int :=
  let side := edge.side place
  if edge.start.lat.atMost place.lat then
    if !place.lat.atMost edge.stop.lat then some 0
    else if 0 < side && !edge.stop.lat.equals place.lat then some 1
    else if side = 0 && edge.spans place.lon then none
    else some 0
  else if !edge.stop.lat.atMost place.lat then some 0
  else if side < 0 then some (-1)
  else if side = 0 && edge.spans place.lon then none
  else some 0

end Edge

/-- A closed line through corners. -/
abbrev Ring := List GeoPoint

namespace Ring

/-- The ring through the corners, the first one repeated at the end unless it is there already. -/
def close : List GeoPoint → Ring
  | [] => []
  | first :: rest =>
    if GeoPoint.equals ((first :: rest).getLast (by simp)) first then first :: rest
    else first :: rest ++ [first]

/-- The edges from each corner to the next. -/
def edges : Ring → List Edge
  | first :: second :: rest => ⟨first, second⟩ :: edges (second :: rest)
  | _ => []

/-- How often edges wind around a place, unless it lies on one of them. -/
def winding? (place : GeoPoint) : List Edge → Option Int
  | [] => some 0
  | edge :: rest => do
    let first ← edge.winding? place
    return first + (← winding? place rest)

/-- Where a place lies relative to a ring. A place without finite coordinates is nowhere, and a
single corner has only itself as its boundary. -/
def position (ring : Ring) (place : GeoPoint) : Position :=
  match ring with
  | [corner] => if GeoPoint.equals corner place then .boundary else .outside
  | corners =>
    if !place.isFinite then .outside
    else
      match winding? place (edges corners) with
      | none => .boundary
      | some 0 => .outside
      | some _ => .inside

end Ring

/-- An outer ring with holes in it. -/
structure Polygon where
  outer : Ring
  holes : List Ring
deriving DecidableEq, Inhabited

namespace Polygon

/-- The polygon with an outer ring and holes, every ring closed by its first place. -/
def of (outer : List GeoPoint) (holes : List (List GeoPoint)) : Polygon :=
  ⟨Ring.close outer, holes.map Ring.close⟩

/-- Where a place inside the outer ring lies relative to the holes: the first hole that it is not
outside of decides. -/
def positionAmong (place : GeoPoint) : List Ring → Position
  | [] => .inside
  | hole :: rest =>
    match hole.position place with
    | .outside => positionAmong place rest
    | .boundary => .boundary
    | .inside => .outside

/-- Where a place lies relative to a polygon. -/
def position (polygon : Polygon) (place : GeoPoint) : Position :=
  match polygon.outer.position place with
  | .inside => positionAmong place polygon.holes
  | position => position

end Polygon

end Geo

end SearchFilter
