import SearchFilter.Query
import SearchFilter.Diagnosed
import SearchFilter.Geo.Distance

/-!
# Predicates on places

Circles around a point, boxes, polygons and shapes. Points are pairs with the latitude first or maps
with both parts by name; inside the coordinates of a shape a pair has its longitude first. Every
point has to lie on the globe: latitudes up to ninety degrees, longitudes up to one hundred and
eighty.
-/

namespace SearchFilter.Resolve

/-- A finite number at the given part of a point. -/
def coordinate (field part : String) (value : Option Value) : Except CompileError Binary64 :=
  match value.bind Value.number? with
  | some number =>
    if number.isFinite then .ok number
    else .error (.invalidOperand field (.coordinateNotNumber part))
  | none => .error (.invalidOperand field (.coordinateNotNumber part))

/-- Whether a finite number of degrees is at most `limit` away from zero. -/
def withinDegrees (limit : Nat) (angle : Binary64) : Bool :=
  angle.magnitude ≤ limit * Binary64.one

/-- The point at these coordinates, if it is on the globe. -/
def onGlobe (field : String) (lat lon : Binary64) : Except CompileError GeoPoint :=
  if withinDegrees 90 lat && withinDegrees 180 lon then .ok ⟨lat, lon⟩
  else .error (.invalidOperand field (.outOfRange lat lon))

/-- A point as a pair with the latitude first or as a map. -/
def point (field : String) : Value → Except CompileError GeoPoint
  | .list [lat, lon] => do
    onGlobe field (← coordinate field "latitude" lat) (← coordinate field "longitude" lon)
  | .map entries => do
    let lat ← coordinate field "lat" ((Value.map entries).named? "lat")
    let lon ← coordinate field "lon" ((Value.map entries).named? "lon")
    onGlobe field lat lon
  | other => .error (.invalidOperand field (.notPoint other.kind))

/-- A point of a shape, as a pair with the longitude first or as a map. -/
def shapePoint (field : String) : Value → Except CompileError GeoPoint
  | .list [lon, lat] => do
    onGlobe field (← coordinate field "latitude" lat) (← coordinate field "longitude" lon)
  | other => point field other

/-- The text of a radius: a number is written out, and what is neither a number nor a text counts as
empty. -/
def radiusText : Value → String
  | .scalar (.str text) => text
  | .scalar (.int value) => (Scalar.int value).plain
  | .scalar (.float value) => (Scalar.float value).plain
  | _ => ""

/-- The test for a place around a point. -/
def aroundPoint (field : String) (center : Value) (radius : Option Value) :
    Except CompileError Test := do
  let center ← point field center
  match radius with
  | none => return .geoDistance center Distance.defaultText
  | some radius =>
    let text := radiusText radius
    if (Distance.meters? text).isNone then throw (.invalidOperand field (.notDistance text))
    return .geoDistance center text

/-- The test for a place in a box, which has to be given from its top to its bottom. -/
def inBox (field : String) (topLeft bottomRight : GeoPoint) : Except CompileError Test :=
  if topLeft.lat.less bottomRight.lat then .error (.invalidOperand field .boxUpsideDown)
  else .ok (.geoBoundingBox topLeft bottomRight)

/-- The box between a top-left and a bottom-right corner. -/
def boxFromTopLeft (field : String) (corner opposite : Value) : Except CompileError Test := do
  let topLeft ← point field corner
  let bottomRight ← point field opposite
  inBox field topLeft bottomRight

/-- The box between a top-right and a bottom-left corner, by its other two corners. -/
def boxFromTopRight (field : String) (corner opposite : Value) : Except CompileError Test := do
  let topRight ← point field corner
  let bottomLeft ← point field opposite
  inBox field ⟨topRight.lat, bottomLeft.lon⟩ ⟨bottomLeft.lat, topRight.lon⟩

/-- The points of a polygon, given as a list or under `points` in a map. -/
def polygonPoints (field : String) : Value → Except CompileError (List Value)
  | .list points => .ok points
  | .map entries =>
    match (Value.map entries).named? "points" with
    | some (.list points) => .ok points
    | _ => .error (.invalidOperand field .polygonWithoutPoints)
  | other => .error (.invalidOperand field (.notPolygon other.kind))

/-- The test for a place in a polygon. Newer engines have deprecated it. -/
def inPolygon (capabilities : Capabilities) (field : String) (value : Value) : Diagnosed Test := do
  let points ← Diagnosed.lift do
    let points ← polygonPoints field value
    if points.length < 3 then throw (.invalidOperand field .tooFewPoints)
    points.mapM (point field)
  .done (.geoPolygon points)
    (if capabilities.has .geoPolygonDeprecated then
      [.deprecated field Operator.geoPolygon.name Feature.geoPolygonDeprecated.since]
    else [])

/-- Whether the first item of a list is a number, which makes the list a point. -/
def startsWithNumber : List Value → Bool
  | [] => false
  | item :: _ => item.number?.isSome

/-- Coordinates of a shape that nest at most as deep as the given number of levels. -/
def coordinatesOf (field : String) : (levels : Nat) → Value → Except CompileError Coordinates
  | 0, _ => .error (.invalidOperand field .coordinatesTooDeep)
  | _ + 1, .map entries => (shapePoint field (.map entries)).map .point
  | levels + 1, .list items =>
    if startsWithNumber items then (shapePoint field (.list items)).map .point
    else (items.mapM (coordinatesOf field levels)).map .list
  | _ + 1, other => .error (.invalidOperand field (.notCoordinates other.kind))

/-- The names that the map of a shape may have. -/
def shapeKeys : List String := ["type", "coordinates", "relation", "radius"]

/-- Whether a key is one of those that a shape has. An operator is none, even one whose name is such
a key. -/
def isShapeKey : Key → Bool
  | .name text => shapeKeys.contains text
  | .op _ => false

/-- The relation of a shape, which is intersection unless another one is given. -/
def relationOf (field : String) : Option Value → Except CompileError ShapeRelation
  | none => .ok .intersects
  | some value =>
    match value.string?.bind ShapeRelation.ofText? with
    | some relation => .ok relation
    | none => .error (.invalidOperand field .unknownRelation)

/-- The test for a relation to a shape. The type is compared in lower case. -/
def toShape (field : String) (levels : Nat) : Value → Except CompileError Test
  | .map entries => do
    match entries.find? fun entry => !isShapeKey entry.1 with
    | some (key, _) => throw (.invalidOperand field (.shapeKey key.text))
    | none => pure ()
    let member (name : String) : Option Value := (Value.map entries).named? name
    let type ←
      match (member "type").bind Value.string? with
      | some type => pure (String.ofList (type.toList.map Char.toLower))
      | none => throw (.invalidOperand field .shapeWithoutType)
    let coordinates ←
      match member "coordinates" with
      | some coordinates => coordinatesOf field levels coordinates
      | none => throw (.invalidOperand field .shapeWithoutCoordinates)
    let relation ← relationOf field (member "relation")
    return .geoShape ⟨type, coordinates, (member "radius").bind Value.string?⟩ relation
  | other => .error (.invalidOperand field (.notShape other.kind))

end SearchFilter.Resolve
