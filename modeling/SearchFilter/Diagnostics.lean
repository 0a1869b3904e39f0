import SearchFilter.Value
import SearchFilter.Engine
import SearchFilter.Json.Writer

/-!
# Errors and warnings of compilation

An error is kept as its cause; `CompileError.message` is the only place that words it. A warning
accompanies a query that was compiled all the same.
-/

namespace SearchFilter

/-- What an operator wants for its operand. -/
inductive Wanted
  | comparand
  | sequence
  | boolean
  | text
deriving DecidableEq, Inhabited

/-- The words for what an operator expects. -/
def Wanted.phrase : Wanted → String
  | .comparand => "a scalar, sequence, range or pattern"
  | .sequence => "a sequence"
  | .boolean => "a boolean"
  | .text => "a string"

/-- Why an operand was refused. -/
inductive Defect
  | specNotAnObject
  | rangeNotAnObject
  | rangeKey (key : String)
  | exclusiveNotBoolean
  | rangeEndpoint (given : Json)
  | sourceNotText
  | caseFlagNotBoolean
  | patternNotText (given : Json)
  | memberNotScalar (given : Kind)
  | groupsExpected
  | specsExpected
  | specExpected (given : Kind)
  | operatorOutsideField (op : Operator)
  | operand (op : Operator) (wanted : Wanted) (given : Kind)
  | notArrayField
  | partnerMissing (op partner : Operator)
  | notGeoField (op : Operator)
  | notMatchable
  | nullAmongAll
  | endpointNotOrderable (given : Scalar)
  | boundNotOrderable (op : Operator) (given : Kind)
  | coordinateNotNumber (part : String)
  | outOfRange (lat lon : Binary64)
  | notPoint (given : Kind)
  | notDistance (text : String)
  | boxUpsideDown
  | polygonWithoutPoints
  | notPolygon (given : Kind)
  | tooFewPoints
  | notShape (given : Kind)
  | shapeKey (key : String)
  | shapeWithoutType
  | shapeWithoutCoordinates
  | coordinatesTooDeep
  | notCoordinates (given : Kind)
  | unknownRelation
deriving Inhabited

namespace Defect

/-- A literal that is no end of a range, with its kind spelled out. -/
def inspect : Scalar → String
  | .bool value => "Bool(" ++ (Scalar.bool value).plain ++ ")"
  | .int value => "Int(" ++ (Scalar.int value).plain ++ ")"
  | .float value => "Float(" ++ (Scalar.float value).plain ++ ")"
  | .str value => "Str(" ++ (Scalar.str value).plain ++ ")"

/-- The spelling of an operator inside a message. -/
def ticked (op : Operator) : String := "`" ++ op.name ++ "`"

/-- The words for what is wrong with an operand, without the field it was given for. -/
def message : Defect → String
  | .specNotAnObject => "a filter spec must be a JSON object"
  | .rangeNotAnObject => "`$range` expects \x7bfrom, to, exclusive\x7d"
  | .rangeKey key => "unexpected `$range` key " ++ Text.quoted key
  | .exclusiveNotBoolean => "`exclusive` must be a boolean"
  | .rangeEndpoint given => "range endpoints must be numbers or strings, got " ++ given.compact
  | .sourceNotText => "`$regex` requires a string `source`"
  | .caseFlagNotBoolean => "`case_insensitive` must be a boolean"
  | .patternNotText given => "`$regex` expects a string or object, got " ++ given.compact
  | .memberNotScalar given => "sequence members must be scalars, got " ++ given.name
  | .groupsExpected => "expected a list of lists of sub-specs"
  | .specsExpected => "expected a list of sub-specs"
  | .specExpected given => "expected a sub-spec map, got " ++ given.name
  | .operatorOutsideField op =>
    "operator " ++ ticked op ++ " is only valid inside a field condition"
  | .operand op wanted given =>
    ticked op ++ " expects " ++ wanted.phrase ++ ", got " ++ given.name
  | .notArrayField => "`all` only applies to array-valued fields"
  | .partnerMissing op partner => ticked op ++ " requires " ++ ticked partner
  | .notGeoField op => ticked op ++ " requires a geo point field"
  | .notMatchable => "NaN is not a matchable value"
  | .nullAmongAll => "`all` does not accept null members"
  | .endpointNotOrderable given =>
    "range endpoints must be numbers, dates or strings, got " ++ inspect given
  | .boundNotOrderable op given =>
    ticked op ++ " requires a number, date or string, got " ++ given.name
  | .coordinateNotNumber part => part ++ " must be a number"
  | .outOfRange lat lon => "coordinates out of range: lat " ++ lat.plain ++ ", lon " ++ lon.plain
  | .notPoint given => "expected [lat, lon] or \x7blat, lon\x7d, got " ++ given.name
  | .notDistance text =>
    "`within` expects a distance such as \"2000mi\", got " ++ Text.quoted text
  | .boxUpsideDown => "bounding box top is below its bottom"
  | .polygonWithoutPoints => "geo_polygon expects \x7bpoints: [...]\x7d"
  | .notPolygon given => "geo_polygon expects a list of points, got " ++ given.name
  | .tooFewPoints => "geo_polygon needs at least three points"
  | .notShape given => "geo_shape expects a map, got " ++ given.name
  | .shapeKey key => "unexpected geo_shape key " ++ Text.quoted key
  | .shapeWithoutType => "geo_shape requires a string `type`"
  | .shapeWithoutCoordinates => "geo_shape requires `coordinates`"
  | .coordinatesTooDeep => "geo_shape coordinates nest too deeply"
  | .notCoordinates given => "invalid geo_shape coordinates: " ++ given.name
  | .unknownRelation => "relation must be intersects, disjoint, within or contains"

end Defect

/-- A failure that ends compilation. -/
inductive CompileError
  | unknownOperator (name : String)
  | unsupportedCapability (op : Operator) (required : EngineVersion)
  | invalidOperand (field : String) (defect : Defect)
  | depthLimitExceeded (limit : Nat)
deriving Inhabited

namespace CompileError

/-- The one-line text of an error. -/
def message : CompileError → String
  | .unknownOperator name => "Unknown where operator: " ++ Text.quoted name
  | .unsupportedCapability op required =>
    op.name ++ " requires engine version " ++ required.text ++ "+"
  | .invalidOperand field defect =>
    "Invalid operand for field '" ++ field ++ "': " ++ defect.message
  | .depthLimitExceeded limit =>
    "Filter nesting exceeds the depth limit of " ++ toString limit

end CompileError

/-- A notice about a query that the engine will treat differently from what was written. -/
inductive Warning
  /-- A pattern literal was not anchored at both ends, but the engine anchors all patterns. -/
  | unanchoredRegexp (field : String)
  /-- The case flag of a pattern literal was dropped. -/
  | caseInsensitiveIgnored (field : String) (required : EngineVersion)
  /-- The engine has deprecated this form of query. -/
  | deprecated (field form : String) (since : EngineVersion)
deriving DecidableEq, Inhabited

namespace Warning

/-- The one-line text of a warning. -/
def message : Warning → String
  | .unanchoredRegexp field =>
    "Regular expressions are always anchored by the engine (field '" ++ field ++ "')"
  | .caseInsensitiveIgnored field required =>
    "Case-insensitive flag does not work with engine versions below " ++ required.text ++
      " (field '" ++ field ++ "')"
  | .deprecated field form since =>
    "Deprecated field [" ++ form ++ "] used since engine version " ++ since.text ++
      " (field '" ++ field ++ "')"

/-- The warning as a document. -/
def toJson : Warning → Json
  | .unanchoredRegexp field =>
    .object [("kind", .string "unanchored_regexp"), ("field", .string field)]
  | .caseInsensitiveIgnored field required =>
    .object [("kind", .string "case_insensitive_ignored"), ("field", .string field),
      ("required", .string required.text)]
  | .deprecated field form since =>
    .object [("kind", .string "deprecated"), ("field", .string field), ("form", .string form),
      ("since", .string since.text)]

end Warning

end SearchFilter
