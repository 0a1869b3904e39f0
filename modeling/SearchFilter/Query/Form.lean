import SearchFilter.Query

/-!
# The exchange form of query trees

A query tree is exchanged as a document: the name of a variant with its content in a one-entry
object, the variant alone where it has no content, and a test as one object with its type among its
members. Reading accepts records also as the sequence of their members in order, ignores members
that a record does not have, and takes the first variant that fits where variants are not named: a
literal is a truth value, a signed integer, a floating-point number or a string, coordinates are a
point before they are a list.
-/

namespace SearchFilter

namespace Json

/-- The members of a record with the given names: by name from an object, in order from a sequence
of exactly as many members. -/
def record? (names : List String) : Json → Option (List (Option Json))
  | .object entries => some (names.map fun name => Entries.find? name entries)
  | .array items => if items.length = names.length then some (items.map some) else none
  | _ => none

/-- The name of a variant and its content, if it has one. -/
def variant? : Json → Option (String × Option Json)
  | .string name => some (name, none)
  | .object [(name, content)] => some (name, some content)
  | _ => none

/-- A variant without content. A null content counts as none. -/
def name? (json : Json) : Option String :=
  match json.variant? with
  | some (name, none) => some name
  | some (name, some .null) => some name
  | _ => none

/-- A variant without content as a member of a test, where an empty record counts as none too. -/
def memberName? (json : Json) : Option String :=
  match json.variant? with
  | some (name, some (.object [])) => some name
  | _ => json.name?

end Json

namespace Scalar

/-- The first kind of literal that a document value fits. -/
def ofJson? : Json → Option Scalar
  | .bool value => some (.bool value)
  | .number value =>
    match value.signed? with
    | some integer => some (.int integer)
    | none => some (.float value.toBinary64)
  | .string value => some (.str value)
  | _ => none

end Scalar

namespace Bound

/-- The exchange form of a bound. Without a literal the variant stands alone. -/
def toJson : Bound → Json
  | .unbounded => .string "Unbounded"
  | .included value => .object [("Included", value.toJson)]
  | .excluded value => .object [("Excluded", value.toJson)]

/-- Reads a bound by the name of its variant. -/
def ofJson? (json : Json) : Option Bound :=
  match json.variant? with
  | some ("Included", some value) => (Scalar.ofJson? value).map .included
  | some ("Excluded", some value) => (Scalar.ofJson? value).map .excluded
  | _ => if json.memberName? = some "Unbounded" then some .unbounded else none

end Bound

namespace GeoPoint

/-- The exchange form of a point. -/
def toJson (point : GeoPoint) : Json :=
  .object [("lat", .real point.lat), ("lon", .real point.lon)]

/-- Reads a point, both parts of which have to be there. -/
def ofJson? (json : Json) : Option GeoPoint :=
  match json.record? ["lat", "lon"] with
  | some [some lat, some lon] => do return ⟨← lat.binary64?, ← lon.binary64?⟩
  | _ => none

end GeoPoint

mutual

/-- The exchange form of coordinates: a point by itself, or a list. -/
def Coordinates.toJson : Coordinates → Json
  | .point value => value.toJson
  | .list items => .array (Coordinates.listToJson items)

/-- The exchange forms of nested coordinates, in order. -/
def Coordinates.listToJson : List Coordinates → List Json
  | [] => []
  | item :: rest => Coordinates.toJson item :: Coordinates.listToJson rest

end

mutual

/-- Coordinates are a point if they can be read as one, and otherwise a list. -/
def Coordinates.ofJson? : Json → Option Coordinates
  | .array items =>
    match GeoPoint.ofJson? (.array items) with
    | some value => some (.point value)
    | none => (Coordinates.listOfJson? items).map .list
  | json => (GeoPoint.ofJson? json).map .point

/-- Reads a list of coordinates, all of which have to be well formed. -/
def Coordinates.listOfJson? : List Json → Option (List Coordinates)
  | [] => some []
  | item :: rest => do
    let first ← Coordinates.ofJson? item
    return first :: (← Coordinates.listOfJson? rest)

end

namespace GeoShape

/-- The exchange form of a shape. Without a radius it has a null. -/
def toJson (shape : GeoShape) : Json :=
  .object [("kind", .string shape.kind), ("coordinates", shape.coordinates.toJson),
    ("radius", shape.radius.elim .null .string)]

/-- A missing radius is allowed in an object. -/
def ofJson? (json : Json) : Option GeoShape :=
  match json.record? ["kind", "coordinates", "radius"] with
  | some [some (.string kind), some coordinates, radius] => do
    let coordinates ← Coordinates.ofJson? coordinates
    match radius with
    | none => return ⟨kind, coordinates, none⟩
    | some .null => return ⟨kind, coordinates, none⟩
    | some (.string text) => return ⟨kind, coordinates, some text⟩
    | some _ => none
  | _ => none

end GeoShape

namespace SetMode

/-- The name of a mode. -/
def name : SetMode → String
  | .any => "any"
  | .all => "all"

/-- The mode with this name. -/
def ofName? (text : String) : Option SetMode :=
  [any, all].find? fun mode => mode.name = text

end SetMode

namespace Test

/-- The members of a test, its type first. -/
def toEntries : Test → List (String × Json)
  | .term value => [("type", .string "term"), ("value", value.toJson)]
  | .termSet mode values =>
    [("type", .string "term_set"), ("mode", .string mode.name),
      ("values", .array (values.map Scalar.toJson))]
  | .range interval =>
    [("type", .string "range"), ("lower", interval.lower.toJson), ("upper", interval.upper.toJson)]
  | .present => [("type", .string "exists")]
  | .startsWith text => [("type", .string "prefix"), ("value", .string text)]
  | .wildcard pattern ignoreCase =>
    [("type", .string "wildcard"), ("pattern", .string pattern),
      ("case_insensitive", .bool ignoreCase)]
  | .regexp pattern ignoreCase strict =>
    [("type", .string "regexp"), ("pattern", .string pattern),
      ("case_insensitive", .bool ignoreCase), ("strict", .bool strict)]
  | .geoDistance center distance =>
    [("type", .string "geo_distance"), ("center", center.toJson), ("distance", .string distance)]
  | .geoBoundingBox topLeft bottomRight =>
    [("type", .string "geo_bounding_box"), ("top_left", topLeft.toJson),
      ("bottom_right", bottomRight.toJson)]
  | .geoPolygon points =>
    [("type", .string "geo_polygon"), ("points", .array (points.map GeoPoint.toJson))]
  | .geoShape shape relation =>
    [("type", .string "geo_shape"), ("shape", shape.toJson), ("relation", .string relation.name)]

/-- The names of the members of each type of test, in order. -/
def memberNames (type : String) : List String :=
  if type = "term" then ["value"]
  else if type = "term_set" then ["mode", "values"]
  else if type = "range" then ["lower", "upper"]
  else if type = "prefix" then ["value"]
  else if type = "wildcard" then ["pattern", "case_insensitive"]
  else if type = "regexp" then ["pattern", "case_insensitive", "strict"]
  else if type = "geo_distance" then ["center", "distance"]
  else if type = "geo_bounding_box" then ["top_left", "bottom_right"]
  else if type = "geo_polygon" then ["points"]
  else if type = "geo_shape" then ["shape", "relation"]
  else []

/-- The type of a test and the rest of its document. -/
def type? : Json → Option (String × Json)
  | .object entries =>
    match Entries.find? "type" entries with
    | some (.string type) => some (type, .object entries)
    | _ => none
  | .array (.string type :: rest) => some (type, .array rest)
  | _ => none

/-- A test of the given type from its members. -/
def ofMembers? (type : String) (members : List Json) : Option Test :=
  match type, members with
  | "exists", [] => some .present
  | "term", [value] => (Scalar.ofJson? value).map .term
  | "term_set", [mode, .array values] => do
    let mode ← mode.memberName?.bind SetMode.ofName?
    return .termSet mode (← values.mapM Scalar.ofJson?)
  | "range", [lower, upper] => do
    return .range ⟨← Bound.ofJson? lower, ← Bound.ofJson? upper⟩
  | "prefix", [.string text] => some (.startsWith text)
  | "wildcard", [.string pattern, .bool ignoreCase] => some (.wildcard pattern ignoreCase)
  | "regexp", [.string pattern, .bool ignoreCase, .bool strict] =>
    some (.regexp pattern ignoreCase strict)
  | "geo_distance", [center, .string distance] => do
    return .geoDistance (← GeoPoint.ofJson? center) distance
  | "geo_bounding_box", [topLeft, bottomRight] => do
    return .geoBoundingBox (← GeoPoint.ofJson? topLeft) (← GeoPoint.ofJson? bottomRight)
  | "geo_polygon", [.array points] => (points.mapM GeoPoint.ofJson?).map .geoPolygon
  | "geo_shape", [shape, relation] => do
    let relation ← relation.memberName?.bind ShapeRelation.ofName?
    return .geoShape (← GeoShape.ofJson? shape) relation
  | _, _ => none

/-- A test whose type comes with its other members. An object may have members that the test does
not have, a sequence may not. -/
def ofJson? (json : Json) : Option Test := do
  let (type, rest) ← type? json
  let members ← rest.record? (memberNames type)
  ofMembers? type (← members.mapM id)

end Test

namespace Predicate

/-- The exchange form of a predicate. -/
def toJson (predicate : Predicate) : Json :=
  .object [("field", .string predicate.field), ("negate", .bool predicate.negated),
    ("kind", .object predicate.test.toEntries)]

/-- Reads a predicate, whose three members have to be there. -/
def ofJson? (json : Json) : Option Predicate :=
  match json.record? ["field", "negate", "kind"] with
  | some [some (.string field), some (.bool negated), some test] =>
    (Test.ofJson? test).map fun test => ⟨field, negated, test⟩
  | _ => none

end Predicate

namespace Query

mutual

/-- The exchange form of a query tree. -/
def toJson : Query → Json
  | .matchAll => .string "match_all"
  | .group connective members =>
    .object [("bool", .object [("op", .string connective.name),
      ("children", .array (listToJson members))])]
  | .leaf predicate => .object [("leaf", predicate.toJson)]

/-- The exchange forms of the members of a group, in order. -/
def listToJson : List Query → List Json
  | [] => []
  | query :: rest => toJson query :: listToJson rest

end

/-- The connective and the members of a group. -/
def groupParts? (json : Json) : Option (Connective × List Json) :=
  match json.record? ["op", "children"] with
  | some [some op, some (.array members)] => do
    return (← op.name?.bind Connective.ofName?, members)
  | _ => none

/-- A member of an object is smaller than the object. The reader of trees recurses on members, which
is why this is needed. -/
theorem sizeOf_find?_lt {key : String} {entries : List (String × Json)} {value : Json}
    (found : Entries.find? key entries = some value) : sizeOf value < sizeOf entries := by
  induction entries with
  | nil => simp [Entries.find?] at found
  | cons entry rest inductionHypothesis =>
    obtain ⟨name, first⟩ := entry
    simp only [Entries.find?] at found
    split at found
    · cases found
      simp only [List.cons.sizeOf_spec, Prod.mk.sizeOf_spec]
      omega
    · have smaller := inductionHypothesis found
      simp only [List.cons.sizeOf_spec]
      omega

/-- A member of a record is smaller than the document of the record. -/
theorem sizeOf_record?_lt {names : List String} {json member : Json} {members : List (Option Json)}
    (read : json.record? names = some members) (isMember : some member ∈ members) :
    sizeOf member < sizeOf json := by
  cases json with
  | object entries =>
    simp only [Json.record?, Option.some.injEq] at read
    subst read
    obtain ⟨name, _, found⟩ := List.mem_map.mp isMember
    have smaller := sizeOf_find?_lt found
    simp only [Json.object.sizeOf_spec]
    omega
  | array items =>
    simp only [Json.record?] at read
    split at read
    · simp only [Option.some.injEq] at read
      subst read
      obtain ⟨item, listed, same⟩ := List.mem_map.mp isMember
      simp only [Option.some.injEq] at same
      subst same
      have smaller := List.sizeOf_lt_of_mem listed
      simp only [Json.array.sizeOf_spec]
      omega
    · cases read
  | _ => simp [Json.record?] at read

/-- The members of a group are smaller than the document of the group. -/
theorem sizeOf_groupParts?_lt {json : Json} {connective : Connective} {members : List Json}
    (parts : groupParts? json = some (connective, members)) : sizeOf members < sizeOf json := by
  unfold groupParts? at parts
  split at parts
  · rename_i op items record
    have smaller : sizeOf (Json.array items) < sizeOf json := sizeOf_record?_lt record (by simp)
    cases named : op.name?.bind Connective.ofName? with
    | none => simp [named] at parts
    | some found =>
      simp only [named, Option.bind_eq_bind, Option.bind_some, Option.pure_def, Option.some.injEq,
        Prod.mk.injEq] at parts
      simp only [Json.array.sizeOf_spec, parts.2] at smaller
      omega
  · cases parts

mutual

/-- The query that a document describes. -/
def ofJson? (json : Json) : Option Query :=
  match json with
  | .string name => if name = "match_all" then some .matchAll else none
  | .object [(name, content)] =>
    if name = "bool" then
      match _ : groupParts? content with
      | some (connective, members) => (listOfJson? members).map (.group connective)
      | none => none
    else if name = "leaf" then (Predicate.ofJson? content).map .leaf
    else if name = "match_all" then
      match content with
      | .null => some .matchAll
      | _ => none
    else none
  | _ => none
termination_by sizeOf json
decreasing_by
  have smaller := sizeOf_groupParts?_lt ‹groupParts? content = some _›
  simp only [Json.object.sizeOf_spec, List.cons.sizeOf_spec, Prod.mk.sizeOf_spec]
  omega

/-- Reads the members of a group, all of which have to be well formed. -/
def listOfJson? (items : List Json) : Option (List Query) :=
  match items with
  | [] => some []
  | item :: rest => do
    let first ← ofJson? item
    return first :: (← listOfJson? rest)
termination_by sizeOf items

end

end Query

end SearchFilter
