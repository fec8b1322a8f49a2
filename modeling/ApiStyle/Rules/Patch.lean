import ApiStyle.Rules.Config
import ApiStyle.Decoding.Source

/-! Patches: what a configuration file asks for on top of what was configured before. -/

namespace ApiStyle

open Source

/-- The conventions of a patch, and whether custom headers are left out. -/
structure NamingPatch where
  path : Option String := none
  parameter : Option String := none
  property : Option String := none
  ignoreCustomHeader : Option Bool := none
deriving DecidableEq, Repr, Inhabited

structure Patch where
  /-- switches by the names of their toggles, in the order of the names -/
  switches : List (String × Bool) := []
  naming : NamingPatch := {}
  domains : List String := []
deriving DecidableEq, Repr, Inhabited

/-- A setting that means nothing. -/
inductive BadSetting where
  | unknownRule (name : String)
  | unknownConvention (name : String)
deriving DecidableEq, Repr

namespace BadSetting

def message : BadSetting → String
  | unknownRule name => "unknown rule '" ++ name ++ "'"
  | unknownConvention name => "invalid naming convention " ++ name ++ " " ++ Convention.offer

end BadSetting

def Toggle.ofSetting (text : String) : Except BadSetting Toggle :=
  match ofText? text with
  | some toggle => .ok toggle
  | none => .error (.unknownRule (Text.trim text))

def Convention.ofSetting (text : String) : Except BadSetting Convention :=
  match ofText? text with
  | some convention => .ok convention
  | none => .error (.unknownConvention (Text.trim text))

namespace Config

def setNamed (config : Config) (switch : String × Bool) : Except BadSetting Config := do
  return config.set (← Toggle.ofSetting switch.1) switch.2

/-- The values that are not among those seen before, each where it comes first. -/
def firsts (seen : List String) : List String → List String
  | [] => []
  | value :: values => if value ∈ seen then firsts seen values else value :: firsts (value :: seen) values

/-- Lists values behind others, and each only once. -/
def mergeUnique (listed values : List String) : List String := firsts [] (listed ++ values)

/-- Conventions that replace the configured ones where they are given. -/
def setConventions (config : Config) (path parameter property : Option String) : Except BadSetting Config := do
  let path ← path.mapM Convention.ofSetting
  let parameter ← parameter.mapM Convention.ofSetting
  let property ← property.mapM Convention.ofSetting
  return { config with
    pathNaming := path.getD config.pathNaming
    parameterNaming := parameter.getD config.parameterNaming
    propertyNaming := property.getD config.propertyNaming }

def addDomains (config : Config) (domains : List String) : Config :=
  { config with extraDomains := mergeUnique config.extraDomains domains }

end Config

namespace Patch

def apply (patch : Patch) (config : Config) : Except BadSetting Config := do
  let config ← patch.switches.foldlM Config.setNamed config
  let config ← config.setConventions patch.naming.path patch.naming.parameter patch.naming.property
  let config := (patch.naming.ignoreCustomHeader.map (config.set .ignoreCustomHeader)).getD config
  return config.addDomains patch.domains

variable {m : Type → Type} {ν : Type} [Source m ν]

def decodeNaming (node : ν) : m NamingPatch :=
  readRecordWith .refused "struct NamingPatch"
    [⟨"path", fun value naming => return { naming with path := ← optional text value }⟩,
     ⟨"parameter", fun value naming => return { naming with parameter := ← optional text value }⟩,
     ⟨"property", fun value naming => return { naming with property := ← optional text value }⟩,
     ⟨"ignore_header_x", fun value naming => return { naming with ignoreCustomHeader := ← optional flag value }⟩]
    {} node fun naming given => do
      require [] 4 "struct NamingPatch with 4 elements" given
      return naming

def decodeServers (node : ν) : m (List String) :=
  readRecordWith .refused "struct ServersPatch"
    [⟨"additional_top_level_domains", fun value _ => return (← optional (sequence text) value).getD []⟩]
    [] node fun domains given => do
      require [] 1 "struct ServersPatch with 1 element" given
      return domains

def decode (node : ν) : m Patch :=
  readRecordWith .refused "struct ConfigPatch"
    [⟨"rules", fun value patch => return { patch with switches := (← optional (table flag) value).getD [] }⟩,
     ⟨"naming", fun value patch => return { patch with naming := (← optional decodeNaming value).getD {} }⟩,
     ⟨"servers", fun value patch => return { patch with domains := (← optional decodeServers value).getD [] }⟩]
    {} node fun patch given => do
      require [] 3 "struct ConfigPatch with 3 elements" given
      return patch

end Patch

end ApiStyle
