import SearchFilter.Compile
import SearchFilter.Config.Environment
import SearchFilter.Config.Value
import SearchFilter.Engine.Given
import SearchFilter.Toml.Reader

/-!
# Configuration

The engine version and the nesting limit are taken from the environment, from a configuration text,
and from the defaults, the first of these that gives a setting. Settings that are not known are
ignored.
-/

namespace SearchFilter

/-- The settings that fix how specifications are compiled. -/
structure Config where
  engineVersion : EngineVersion := .default
  maxDepth : Nat := defaultDepth
deriving DecidableEq, Inhabited

namespace Config

/-- Where a setting comes from. -/
inductive Source
  | text
  | file
  | environment
deriving DecidableEq, Inhabited

/-- Why the value of a setting was refused. -/
inductive SettingError
  | version (cause : VersionError)
  | notCount (given : Value)
deriving Inhabited

namespace SettingError

/-- The words for a setting that cannot be read. A count says whether it got a whole number below
zero or another kind of value. -/
def message : SettingError → String
  | .version cause => cause.message
  | .notCount (.integer value) =>
    "invalid value signed int `" ++ toString value ++ "`, expected usize"
  | .notCount given => "invalid type: " ++ given.given ++ ", expected usize"

end SettingError

/-- Why no configuration could be made. -/
inductive Error
  /-- The configuration text is not well formed. -/
  | unreadable
  | setting (key : String) (cause : SettingError) (source : Source)
  /-- The values are of the right kind and still do not make sense. -/
  | noDepth
  | unreleased (version : EngineVersion)
deriving Inhabited

namespace Error

/-- The message, where its wording does not depend on the place of a file or on the environment. -/
def message? : Error → Option String
  | .unreadable => none
  | .setting key cause .text =>
    some ("Failed to parse configuration: " ++ cause.message ++ " for key \"default." ++ key ++
      "\" in TOML source string")
  | .setting _ _ _ => none
  | .noDepth => some "Invalid configuration value for 'max_depth': must be at least 1"
  | .unreleased version =>
    some ("Invalid configuration value for 'engine_version': " ++ version.text ++
      " is not a released engine version")

end Error

/-- The version that a setting gives. -/
def version : Value → Except VersionError EngineVersion
  | .text text => EngineVersion.ofText text
  | .integer value => EngineVersion.ofMajor value
  | .real value => .error (.fractional value)
  | given => .error (.wrongKind given.given)

/-- The number that a setting gives. -/
def count : Value → Except SettingError Nat
  | .integer value => if 0 ≤ value then .ok value.toNat else .error (.notCount (.integer value))
  | given => .error (.notCount given)

/-- The value for a setting from the first source that gives it. -/
def find? (key : String) : List (Source × Layer) → Option (Source × Value)
  | [] => none
  | (source, layer) :: rest =>
    match Entries.find? key layer with
    | some value => some (source, value)
    | none => find? key rest

/-- A setting read from the first source that gives it, or its default. -/
def setting {α : Type} (key : String) (default : α) (read : Value → Except SettingError α)
    (layers : List (Source × Layer)) : Except Error α :=
  match find? key layers with
  | none => .ok default
  | some (source, value) => (read value).mapError fun cause => .setting key cause source

/-- A configuration that makes sense. -/
def validate (config : Config) : Except Error Config :=
  if config.maxDepth = 0 then .error .noDepth
  else if config.engineVersion.major = 0 then .error (.unreleased config.engineVersion)
  else .ok config

/-- The configuration from several sources, the strongest first. -/
def ofLayers (layers : List (Source × Layer)) : Except Error Config := do
  let version ← setting "engine_version" EngineVersion.default
    (fun value => (version value).mapError .version) layers
  let depth ← setting "max_depth" defaultDepth count layers
  validate ⟨version, depth⟩

/-- The layer that a configuration text gives. -/
def textLayer (text : String) : Except Error Layer :=
  match Toml.ofText? text with
  | none => .error .unreadable
  | some entries => .ok (entries.map fun entry => (entry.1, .ofToml entry.2))

/-- The configuration that a text gives. -/
def ofText (text : String) : Except Error Config := do
  ofLayers [(.text, ← textLayer text)]

/-- The configuration from the content of a file, if there is one, and from the environment
variables whose names start with `lead`. -/
def load (lead : String) (file? : Option String) (environment : List (String × String)) :
    Except Error Config := do
  let own := Environment.layer lead environment
  match file? with
  | none => ofLayers [(.environment, own)]
  | some text => ofLayers [(.environment, own), (.file, ← textLayer text)]

/-- Compiles a specification as the configuration asks for. -/
def compile (config : Config) (spec : FilterSpec) (fields : FieldContext) :
    Except CompileError CompiledQuery :=
  SearchFilter.compile spec fields config.engineVersion.capabilities config.maxDepth

end Config

end SearchFilter
