import ApiStyle.Rules.Patch

/-! The commands of the program and the flags that each of them takes. -/

namespace ApiStyle

inductive Command where
  | validate | rules
deriving DecidableEq, Repr, Inhabited

namespace Command

def name : Command → String
  | validate => "validate"
  | rules => "rules"

def ofName? (name : String) : Option Command := [validate, rules].find? (·.name = name)

end Command

/-- How a report is written. -/
inductive Format where
  | human | json | sarif | junit
deriving DecidableEq, Repr, Inhabited

namespace Format

def name : Format → String
  | human => "human"
  | json => "json"
  | sarif => "sarif"
  | junit => "junit"

end Format

inductive Flag where
  | verbose | quiet | robot | config | help | version
  | format | disable | enable | pathNaming | parameterNaming | propertyNaming | additionalDomain
deriving DecidableEq, Repr, Inhabited

/-- Whether a flag wants a value, and what its value is called. -/
inductive Arity where
  | switch | counter
  | value (name : String)
deriving DecidableEq, Repr

namespace Flag

def long : Flag → String
  | verbose => "verbose"
  | quiet => "quiet"
  | robot => "robot"
  | config => "config"
  | help => "help"
  | version => "version"
  | format => "format"
  | disable => "disable"
  | enable => "enable"
  | pathNaming => "path-naming"
  | parameterNaming => "parameter-naming"
  | propertyNaming => "property-naming"
  | additionalDomain => "additional-tld"

def short? : Flag → Option Char
  | verbose => some 'v'
  | quiet => some 'q'
  | help => some 'h'
  | version => some 'V'
  | format => some 'f'
  | _ => none

def arity : Flag → Arity
  | verbose => .counter
  | config => .value "PATH"
  | format => .value "FORMAT"
  | disable => .value "RULE"
  | enable => .value "RULE"
  | pathNaming => .value "CONVENTION"
  | parameterNaming => .value "CONVENTION"
  | propertyNaming => .value "CONVENTION"
  | additionalDomain => .value "TLD"
  | _ => .switch

def takesValue (flag : Flag) : Bool :=
  match flag.arity with
  | .value _ => true
  | _ => false

/-- A flag in messages. -/
def label (flag : Flag) : String :=
  match flag.arity with
  | .switch => "--" ++ flag.long
  | .counter => "--" ++ flag.long ++ "..."
  | .value name => "--" ++ flag.long ++ " <" ++ name ++ ">"

/-- The flags that may stand before the command as well as after it. -/
def everywhere : List Flag := [verbose, quiet, robot, config, help, version]

end Flag

/-- Where an argument stands: before the command, or after it. -/
abbrev Scope := Option Command

namespace Scope

def flags : Scope → List Flag
  | none => Flag.everywhere
  | some .rules => .format :: Flag.everywhere
  | some .validate =>
    [.format, .disable, .enable, .pathNaming, .parameterNaming, .propertyNaming, .additionalDomain]
      ++ Flag.everywhere

def formats : Scope → List Format
  | some .validate => [.human, .json, .sarif, .junit]
  | _ => [.human, .json]

def long? (scope : Scope) (name : String) : Option Flag := scope.flags.find? (·.long = name)

def short? (scope : Scope) (letter : Char) : Option Flag := scope.flags.find? (·.short? = some letter)

end Scope

/-- Why arguments are not carried out. -/
inductive Refusal where
  | helpAsked
  /-- nothing was given at all -/
  | helpNeeded
  | versionAsked (scope : Scope)
  | emptyValue (label : String)
  | unknownValue (value label : String)
  | badSetting (value label : String) (setting : BadSetting)
  | surplusValue (value label : String)
  | repeated (label : String)
  | unknownArgument (text : String)
  | unknownCommand (text : String)
  | missingCommand
  | missingInput
deriving DecidableEq, Repr

end ApiStyle
