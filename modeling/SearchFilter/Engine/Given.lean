import SearchFilter.Engine
import SearchFilter.Json
import SearchFilter.Text.Quoted

/-!
# Versions as they are given

A version is given as a text or as the number of its major part. A fractional number is refused,
because it does not tell `7.1` from `7.10`.
-/

namespace SearchFilter

/-- Why a version was refused. -/
inductive VersionError
  | malformed (text : String)
  | outOfRange (major : Int)
  | negative (value : Int)
  | fractional (value : Binary64)
  /-- Something that is neither text nor number; the text says what. -/
  | wrongKind (given : String)
deriving DecidableEq, Inhabited

namespace VersionError

/-- The words for a version that cannot be read, with the version as it was given. -/
def message : VersionError → String
  | .malformed text =>
    "Invalid engine version " ++ Text.quoted text ++ ": expected major[.minor[.patch]]"
  | .outOfRange major => "engine major version " ++ toString major ++ " is out of range"
  | .negative value => "engine version " ++ toString value ++ " is negative"
  | .fractional value =>
    "engine version " ++ value.plain ++ " must be quoted as a string, e.g. \"7.10.0\""
  | .wrongKind given =>
    "invalid type: " ++ given ++
      ", expected a version string such as \"7.10.0\" or a major version number"

end VersionError

namespace EngineVersion

/-- The version that a text spells, or the text back as malformed. -/
def ofText (text : String) : Except VersionError EngineVersion :=
  match ofText? text with
  | some version => .ok version
  | none => .error (.malformed text)

/-- The first version with a major number. -/
def ofMajor (major : Int) : Except VersionError EngineVersion :=
  if major < 0 then .error (.negative major)
  else if UInt32.size ≤ major then .error (.outOfRange major)
  else .ok ⟨major.toNat.toUInt32, 0, 0⟩

/-- The version that a document value gives. -/
def ofJson : Json → Except VersionError EngineVersion
  | .string text => ofText text
  | .number (.integer value) => ofMajor value
  | .number (.real value) => .error (.fractional value)
  | .null => .error (.wrongKind "null")
  | .bool value => .error (.wrongKind (if value then "boolean `true`" else "boolean `false`"))
  | .array _ => .error (.wrongKind "sequence")
  | .object _ => .error (.wrongKind "map")

end EngineVersion

end SearchFilter
