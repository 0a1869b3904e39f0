import SearchFilter.Text.CharacterClass
import SearchFilter.Binary64.Decimal

/-!
# Search engine versions and what they can do

A version is written as up to three dot-separated numbers of thirty-two bits; what follows a hyphen
or a plus sign is a build label and changes nothing. The order of versions is that of their parts
from the major one on, and a feature is there from its first version on.
-/

namespace SearchFilter

/-- A version of the search engine. -/
structure EngineVersion where
  major : UInt32
  minor : UInt32
  patch : UInt32
deriving DecidableEq, Inhabited

namespace EngineVersion

/-- The order by major, minor and patch number. -/
def order (a b : EngineVersion) : Ordering :=
  (compare a.major b.major).then ((compare a.minor b.minor).then (compare a.patch b.patch))

/-- Whether a version is the same as another one or comes after it. -/
def atLeast (version since : EngineVersion) : Bool := version.order since != .lt

/-- The three parts, joined by dots. -/
def text (version : EngineVersion) : String :=
  toString version.major ++ "." ++ toString version.minor ++ "." ++ toString version.patch

/-- A run of digits whose value fits thirty-two bits. -/
def part? (digits : List Char) : Option UInt32 :=
  let value := Decimal.valueOf digits
  if !digits.isEmpty && digits.all Char.isDigit && value < UInt32.size then some value.toUInt32
  else none

/-- The pieces of a text between its dots, one more than it has dots. -/
def pieces : List Char → List (List Char)
  | [] => [[]]
  | c :: rest =>
    match pieces rest with
    | [] => [[c]]
    | piece :: others => if c = '.' then [] :: piece :: others else (c :: piece) :: others

/-- What is left of a text in front of its build label, white space at the ends removed. -/
def core (text : List Char) : List Char :=
  (Text.trim text).takeWhile fun c => c ≠ '-' && c ≠ '+'

/-- The version that a text spells; parts that are not given are zero. -/
def ofText? (text : String) : Option EngineVersion :=
  match pieces (core text.toList) with
  | [major] => do return ⟨← part? major, 0, 0⟩
  | [major, minor] => do return ⟨← part? major, ← part? minor, 0⟩
  | [major, minor, patch] => do return ⟨← part? major, ← part? minor, ← part? patch⟩
  | _ => none

/-- The version that a text without a known version is taken to mean. -/
def default : EngineVersion := ⟨8, 0, 0⟩

end EngineVersion

/-- Engine behaviour that differs between versions. -/
inductive Feature
  /-- The case flag of wildcard and regular-expression queries. -/
  | caseInsensitiveMatch
  /-- Polygon queries on points still work but are deprecated. -/
  | geoPolygonDeprecated
deriving DecidableEq, Inhabited

namespace Feature

/-- The name of a feature in requests and answers. -/
def name : Feature → String
  | .caseInsensitiveMatch => "case_insensitive_match"
  | .geoPolygonDeprecated => "geo_polygon_deprecated"

/-- The feature with this name. -/
def ofName? (text : String) : Option Feature :=
  [caseInsensitiveMatch, geoPolygonDeprecated].find? fun feature => feature.name = text

/-- The first version with the feature. -/
def since : Feature → EngineVersion
  | .caseInsensitiveMatch => ⟨7, 10, 0⟩
  | .geoPolygonDeprecated => ⟨7, 12, 0⟩

end Feature

/-- The features of an engine. -/
structure Capabilities where
  has : Feature → Bool

namespace EngineVersion

/-- An engine has the features introduced up to its version. -/
def capabilities (version : EngineVersion) : Capabilities :=
  ⟨fun feature => version.atLeast feature.since⟩

end EngineVersion

end SearchFilter
