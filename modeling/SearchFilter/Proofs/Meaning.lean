import SearchFilter.Matching
import SearchFilter.Resolve

/-!
# The meaning of specifications

Which documents a specification selects, said by recursion on the specification alone. No query
tree, no declared field and no nesting limit takes part. A condition looks at what a document holds
at the path of its field; operators of one map all have to hold, and sub-specifications are combined
as their key says.

The bounds of an operator map are the one place where entries are read together. Going through them
in order, a bound and the next one form a pair if they are on different sides, and one value of the
field has to satisfy both; any other bound stands alone. Operators that only complete another one
ask for nothing themselves.

The definitions are total. What they say of a specification that does not compile has no use.
-/

namespace SearchFilter

/-- What a document holds at the path of a field. -/
structure Held where
  values : List Json
  places : List GeoPoint

namespace Held

/-- The values and the places that a dotted path leads to. -/
def of (document : Json) (path : String) : Held :=
  ⟨document.leaves (Path.segments path), document.places (Path.segments path)⟩

/-- The texts among the values of a field. -/
def texts (held : Held) : List String := held.values.filterMap Json.string?

/-- Whether some place lies in an area, if there is such an area. -/
def meets (held : Held) (area : Option Geo.Area) : Bool :=
  area.any fun area => held.places.any area.meets

end Held

/-- A bound of an operator map. -/
structure Edge where
  side : Resolve.Side
  strict : Bool
  literal : Scalar

namespace Edge

/-- The bound that an operator with this operand stands for. -/
def of? (op : Operator) (literal : Scalar) : Option Edge :=
  match op with
  | .greater => some ⟨.lower, true, literal⟩
  | .greaterOrEqual => some ⟨.lower, false, literal⟩
  | .less => some ⟨.upper, true, literal⟩
  | .lessOrEqual => some ⟨.upper, false, literal⟩
  | _ => none

/-- Whether a value is on the right side of the bound. A value of another kind than the literal is
on no side of it. -/
def admits (edge : Edge) (value : Json) : Bool :=
  let order := edge.literal.compareValue? value
  match edge.side, edge.strict with
  | .lower, true => order = some .gt
  | .lower, false => order = some .gt || order = some .eq
  | .upper, true => order = some .lt
  | .upper, false => order = some .lt || order = some .eq

/-- The bounds that have to hold of one and the same value: a bound with the next one if that is on
the other side, and alone otherwise. -/
def together : List Edge → List (List Edge)
  | [] => []
  | [edge] => [[edge]]
  | edge :: next :: rest =>
    if edge.side = next.side then [edge] :: together (next :: rest)
    else [edge, next] :: together rest

/-- Whether for each group of bounds one value satisfies all of the group. -/
def hold (values : List Json) (edges : List Edge) : Bool :=
  (together edges).all fun group => values.any fun value => group.all fun edge => edge.admits value

end Edge

namespace Meaning

/-! ### Places in operands -/

/-- A place as a pair with the latitude first or as a map. -/
def place? : Value → Option GeoPoint
  | .list [lat, lon] => do return ⟨← lat.number?, ← lon.number?⟩
  | .map entries => do
    let lat ← (Value.map entries).named? "lat"
    let lon ← (Value.map entries).named? "lon"
    return ⟨← lat.number?, ← lon.number?⟩
  | _ => none

/-- A pair with the longitude first, as the coordinates of shapes have it. -/
def pair? : List Value → Option GeoPoint
  | [lon, lat] => do return ⟨← lat.number?, ← lon.number?⟩
  | _ => none

/-- The circle around a center. Without a radius the default one counts. -/
def circle? (center : Value) (radius : Option Value) : Option Geo.Area := do
  let center ← place? center
  let meters ← Distance.meters? (radius.elim Distance.defaultText Resolve.radiusText)
  return .circle center meters

/-- The box from a top-left corner to a bottom-right one. -/
def boxFromTopLeft? (corner opposite : Value) : Option Geo.Area := do
  return .boxes (Geo.Box.ofCorners (← place? corner) (← place? opposite))

/-- The box from a top-right corner to a bottom-left one: the latitudes stay and the longitudes
change places. -/
def boxFromTopRight? (corner opposite : Value) : Option Geo.Area := do
  let topRight ← place? corner
  let bottomLeft ← place? opposite
  return .boxes (Geo.Box.ofCorners ⟨topRight.lat, bottomLeft.lon⟩ ⟨bottomLeft.lat, topRight.lon⟩)

/-- The polygon with these corners, given as a list or under `points`. -/
def polygon? : Value → Option Geo.Area
  | .list corners => (corners.mapM place?).map fun points => .polygons [.of points []]
  | .map entries =>
    match (Value.map entries).named? "points" with
    | some (.list corners) => (corners.mapM place?).map fun points => .polygons [.of points []]
    | _ => none
  | _ => none

mutual

/-- The coordinates of a shape: a map or a pair is a point, and any other list nests. -/
def coordinates? : Value → Option Coordinates
  | .map entries => (place? (.map entries)).map .point
  | .list items =>
    if Resolve.startsWithNumber items then (pair? items).map .point
    else (allCoordinates? items).map .list
  | _ => none

/-- Reads nested coordinates in order, all of which have to be well formed. -/
def allCoordinates? : List Value → Option (List Coordinates)
  | [] => some []
  | item :: rest => do
    let first ← coordinates? item
    return first :: (← allCoordinates? rest)

end

/-- The relation of a shape, intersection unless another one is named. -/
def relation? : Option Value → Option ShapeRelation
  | none => some .intersects
  | some value => value.string?.bind ShapeRelation.ofText?

/-- The area of a shape with the relation that places must have to it. -/
def shape? (value : Value) : Option (Geo.Area × ShapeRelation) := do
  let kind ← (← value.named? "type").string?
  let coordinates ← coordinates? (← value.named? "coordinates")
  let relation ← relation? (value.named? "relation")
  let area ← Geo.Area.ofShape?
    ⟨String.ofList (kind.toList.map Char.toLower), coordinates,
      (value.named? "radius").bind Value.string?⟩
  return (area, relation)

/-! ### Conditions on a field -/

/-- A member of a list asks for itself among the values, and a null member for no value at all. -/
def member (held : Held) : Value → Bool
  | .null => held.values.isEmpty
  | .scalar literal => held.values.any literal.equalsValue
  | _ => false

/-- A pattern literal has to match a text as a whole once its anchors are taken off. The case flag
counts only where the engine has it. -/
def pattern (capabilities : Capabilities) (held : Held) (pattern : Pattern) : Bool :=
  let ignoreCase := pattern.ignoreCase && capabilities.has .caseInsensitiveMatch
  held.texts.any (Regex.matchesWhole (Resolve.stripAnchors pattern.source).1 ignoreCase)

/-- A LIKE pattern has to cover a text as a whole. -/
def like (held : Held) (ignoreCase : Bool) (text : String) : Bool :=
  held.texts.any (Wildcard.matchesWhole (String.ofList (Wildcard.ofLike text.toList)) ignoreCase)

/-- An operator whose operand is no condition of its own. The operand of its partner, if the map has
one, is found by `partner`. -/
def operator (held : Held) (partner : Operator → Option Value) (op : Operator) (value : Value) :
    Bool :=
  match op, value with
  | .oneOf, .list items => items.any (member held)
  | .allOf, .list items => items.all (member held)
  | .present, .scalar (.bool wanted) => !held.values.isEmpty == wanted
  | .startsWith, .scalar (.str text) =>
    held.texts.any fun given => text.toList.isPrefixOf given.toList
  | .regexp, .scalar (.str text) => held.texts.any (Regex.matchesWhole text false)
  | .like, .scalar (.str text) => like held false text
  | .likeAnyCase, .scalar (.str text) => like held true text
  | .near, center => held.meets (circle? center (partner .within))
  | .topLeft, corner => held.meets ((partner .bottomRight).bind (boxFromTopLeft? corner))
  | .topRight, corner => held.meets ((partner .bottomLeft).bind (boxFromTopRight? corner))
  | .geoPolygon, corners => held.meets (polygon? corners)
  | .geoShape, shape =>
    (shape? shape).any fun (area, relation) => area.relates relation held.places
  | .within, _ | .bottomRight, _ | .bottomLeft, _ => true
  | .greater, _ | .greaterOrEqual, _ | .less, _ | .lessOrEqual, _ => true
  | _, _ => false

/-- The operand of the first entry with this operator. -/
def partner? (entries : List (Key × Value)) (op : Operator) : Option Value :=
  (entries.find? fun entry => entry.1 = .op op).map Prod.snd

/-- The bound that an entry of an operator map stands for. -/
def edge? : Key × Value → Option Edge
  | (.op op, .scalar literal) => Edge.of? op literal
  | _ => none

mutual

/-- Whether what a document holds satisfies a condition. -/
def condition (capabilities : Capabilities) (held : Held) : Value → Bool
  | .null => held.values.isEmpty
  | .scalar literal => held.values.any literal.equalsValue
  | .list items => items.any (member held)
  | .interval interval => held.values.any interval.contains
  | .pattern literal => pattern capabilities held literal
  | .map entries =>
    operators capabilities held (partner? entries) entries &&
      Edge.hold held.values (entries.filterMap edge?)

/-- Whether every operator of a map holds, bounds apart. -/
def operators (capabilities : Capabilities) (held : Held) (partner : Operator → Option Value) :
    List (Key × Value) → Bool
  | [] => true
  | (.op .equal, value) :: rest =>
    condition capabilities held value && operators capabilities held partner rest
  | (.op .negation, value) :: rest =>
    !condition capabilities held value && operators capabilities held partner rest
  | (.op op, value) :: rest =>
    operator held partner op value && operators capabilities held partner rest
  | (.name _, _) :: _ => false

end

/-! ### Specifications -/

mutual

/-- Whether a document satisfies a sub-specification. -/
def specification (capabilities : Capabilities) (document : Json) : Value → Bool
  | .map entries => allEntries capabilities document entries
  | _ => false

/-- Whether every entry of a specification holds: a combination of sub-specifications under the key
of a combinator, and a condition on a field under any other key. -/
def allEntries (capabilities : Capabilities) (document : Json) : List (Key × Value) → Bool
  | [] => true
  | (key, value) :: rest =>
    (match Combinator.ofKey? key.text with
      | some combinator => combination capabilities document combinator value
      | none => condition capabilities (.of document (Where.pathOf key.text)) value) &&
    allEntries capabilities document rest

/-- Whether the sub-specifications of a combinator hold as it asks. -/
def combination (capabilities : Capabilities) (document : Json) : Combinator → Value → Bool
  | .and, .list groups => everyGroup capabilities document .and groups
  | .or, .list groups => everyGroup capabilities document .or groups
  | .flatAnd, .list items => allHold capabilities document items
  | .flatOr, .list items => anyHolds capabilities document items
  | .not, .list items => !anyHolds capabilities document items
  | .not, .map entries => !allEntries capabilities document entries
  | _, _ => false

/-- Whether every inner list has all, or some, of its sub-specifications holding. -/
def everyGroup (capabilities : Capabilities) (document : Json) (connective : Connective) :
    List Value → Bool
  | [] => true
  | .list items :: rest =>
    (if connective = .and then allHold capabilities document items
      else anyHolds capabilities document items) &&
    everyGroup capabilities document connective rest
  | _ :: _ => false

/-- Whether every sub-specification of a list holds of a document. -/
def allHold (capabilities : Capabilities) (document : Json) : List Value → Bool
  | [] => true
  | item :: rest =>
    specification capabilities document item && allHold capabilities document rest

/-- Whether one of the sub-specifications of a list holds of a document. -/
def anyHolds (capabilities : Capabilities) (document : Json) : List Value → Bool
  | [] => false
  | item :: rest =>
    specification capabilities document item || anyHolds capabilities document rest

end

end Meaning

/-- Whether a document satisfies a specification on an engine with these capabilities. -/
def FilterSpec.holds (capabilities : Capabilities) (document : Json) (spec : FilterSpec) : Bool :=
  Meaning.specification capabilities document spec.toValue

end SearchFilter
