import ApiStyle.Failure

/-! The layers of the configuration. A file that is named alone counts; otherwise the user's file comes
first and the project's file on top. Variables of the environment override both. -/

namespace ApiStyle

structure Settings where
  config : Config := {}
  /-- the files that contributed, in the order of their layers -/
  sources : List Path := []
deriving Inhabited

namespace Patch

def ofToml (text : String) : Except TextFault Patch := (Toml.decodeText decode text).mapError (.toml text)

end Patch

namespace Settings

/-- The name of the file that a project directory may have. -/
def projectFile : Path := ⟨".oas-style.toml"⟩

/-- The file within the user's directory for settings. -/
def userFile : Path := ⟨"oas-style/config.toml"⟩

/-- The variable that names a file to be used alone. -/
def fileVariable : String := "OAS_STYLE_CONFIG"

/-- The variables that name conventions. -/
def pathVariable : String := "OAS_STYLE_PATH_NAMING"
def parameterVariable : String := "OAS_STYLE_PARAMETER_NAMING"
def propertyVariable : String := "OAS_STYLE_PROPERTY_NAMING"

/-- The variable that lists domains. -/
def domainsVariable : String := "OAS_STYLE_ADDITIONAL_TLDS"

/-- Every variable that settings depend on. -/
def variableNames : List String :=
  [fileVariable, pathVariable, parameterVariable, propertyVariable, domainsVariable]
    ++ Toggle.all.map Toggle.variableName

def ofToml (text : String) : Except BadConfig Settings := do
  let patch ← (Patch.ofToml text).mapError (.malformed none)
  return { config := ← (patch.apply {}).mapError (.setting none) }

/-- The patch in a file, if there is something at its path. -/
def readPatch (surroundings : Surroundings) (path : Path) : Except BadConfig (Option Patch) :=
  match surroundings.look path with
  | none => .ok none
  | some (.error reason) => .error (.unreadable path reason)
  | some (.ok text) => ((Patch.ofToml text).mapError (.malformed (some path))).map some

def addPatch (settings : Settings) (path : Path) (patch : Patch) : Except BadConfig Settings := do
  let config ← (patch.apply settings.config).mapError (.setting (some path))
  return ⟨config, settings.sources ++ [path]⟩

/-- Adds the layer of a file that may be missing. -/
def addFile (surroundings : Surroundings) (settings : Settings) (path : Path) : Except BadConfig Settings := do
  match ← readPatch surroundings path with
  | none => return settings
  | some patch => settings.addPatch path patch

/-- Whether the value of a variable means yes. Only ASCII letters have these words as their small forms. -/
def isTruthy (text : String) : Bool :=
  (String.ofList (text.toList.map Char.toLower)) ∈ ["1", "true", "yes", "on"]

/-- Sets a toggle as its variable says. -/
def overrideToggle (environment : String → Option String) (config : Config) (toggle : Toggle) : Config :=
  match environment toggle.variableName with
  | none => config
  | some text => config.set toggle (isTruthy text)

/-- The entries of a list in one text. -/
def listed (text : String) : List String :=
  ((Text.split ',' text).map Text.trim).filter (· ≠ "")

def override (environment : String → Option String) (config : Config) : Except BadSetting Config := do
  let config := Toggle.all.foldl (overrideToggle environment) config
  let config ← config.setConventions (environment pathVariable) (environment parameterVariable)
    (environment propertyVariable)
  return config.addDomains (((environment domainsVariable).map listed).getD [])

/-- The file that is to be used alone, if one is named. -/
def namedFile (environment : String → Option String) (explicit : Option Path) : Option Path :=
  explicit.orElse fun _ => (environment fileVariable).map Path.mk

/-- The layers of files on top of the defaults, for a file that is named or for a project directory. -/
def ofFiles (surroundings : Surroundings) (named : Option Path) (project : Path) : Except Failure Settings :=
  match named with
  | some path => do
    match ← (readPatch surroundings path).mapError .badConfig with
    | none => throw (.noConfig path)
    | some patch => (addPatch {} path patch).mapError .badConfig
  | none =>
    let user := surroundings.settings.map (·.join userFile)
    ((user.toList ++ [project.join projectFile]).foldlM (addFile surroundings) {}).mapError .badConfig

/-- The settings of a run; the file named by `explicit` goes before one named by a variable. -/
def load (surroundings : Surroundings) (explicit : Option Path) (project : Path) : Except Failure Settings := do
  let settings ← ofFiles surroundings (namedFile surroundings.environment explicit) project
  let config ← (override surroundings.environment settings.config).mapError fun setting =>
    .badConfig (.setting none setting)
  return { settings with config }

end Settings

end ApiStyle
