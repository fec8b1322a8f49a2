import ApiStyle.CommandLine.Arguments
import ApiStyle.Program

/-! What the program is asked to do. Flags that may stand before and after the command count from either
side; the ones after it go first. -/

namespace ApiStyle

/-- Changes of the configuration for one run. -/
structure Overrides where
  disable : List Toggle := []
  enable : List Toggle := []
  pathNaming : Option Convention := none
  parameterNaming : Option Convention := none
  propertyNaming : Option Convention := none
  domains : List String := []
deriving DecidableEq, Repr, Inhabited

namespace Overrides

/-- Lists behind others the values that are not there yet. -/
def addMissing (listed : List String) : List String → List String
  | [] => listed
  | value :: values => addMissing (if value ∈ listed then listed else listed ++ [value]) values

/-- A toggle that is both enabled and disabled is off. -/
def apply (overrides : Overrides) (config : Config) : Config :=
  let config := overrides.enable.foldl (fun config toggle => config.set toggle true) config
  let config := overrides.disable.foldl (fun config toggle => config.set toggle false) config
  { config with
    pathNaming := overrides.pathNaming.getD config.pathNaming
    parameterNaming := overrides.parameterNaming.getD config.parameterNaming
    propertyNaming := overrides.propertyNaming.getD config.propertyNaming
    extraDomains := addMissing config.extraDomains overrides.domains }

end Overrides

inductive Request where
  | validate (input : Path) (format : Format) (overrides : Overrides)
  | rules (format : Option Format)
deriving DecidableEq, Repr

structure Invocation where
  request : Request
  /-- for programs: reports and failures are told as JSON -/
  robot : Bool := false
  config : Option Path := none
deriving DecidableEq, Repr

namespace Given

def robotVariable : String := "OAS_STYLE_ROBOT"

/-- A variable can stand for the switch; it says so in full. -/
def withRobotVariable (value : Option String) (given : Given) : Except Refusal Given :=
  if given.robot then .ok given
  else match value with
    | none => .ok given
    | some text =>
      if text = "true" then .ok { given with robot := true }
      else if text = "false" then .ok given
      else .error (if text.isEmpty then .emptyValue Flag.robot.label else .unknownValue text Flag.robot.label)

def overrides (given : Given) : Overrides :=
  { disable := given.disable, enable := given.enable, pathNaming := given.pathNaming,
    parameterNaming := given.parameterNaming, propertyNaming := given.propertyNaming, domains := given.domains }

def request (given : Given) : Command → Except Refusal Request
  | .rules => .ok (.rules given.format)
  | .validate =>
    match given.input with
    | none => .error .missingInput
    | some input => .ok (.validate input (given.format.getD .human) given.overrides)

end Given

namespace Invocation

def helpOn : List String → Refusal
  | [] => .helpAsked
  | [name] => if Reader.isCommandName name then .helpAsked else .unknownCommand name
  | name :: inner :: _ => .unknownCommand (if Reader.isCommandName name then inner else name)

/-- What is wrong with arguments that name no command. -/
def withoutCommand (robot : Option String) (given : Given) : Refusal :=
  if given = {} ∧ robot = none then .helpNeeded else .missingCommand

def finish (robot : Option String) (scope : Scope) (reader : Reader) : Except Refusal Given := do
  (← reader.settle scope).given.withRobotVariable robot

/-- The invocation that arguments stand for, given the value of the variable for robots. -/
def ofArguments (robot : Option String) (arguments : List String) : Except Refusal Invocation := do
  let (before, rest) ← Reader.readFrom none {} arguments
  match rest with
  | none => throw (withoutCommand robot (← finish robot none before))
  | some (name, arguments) =>
    match Command.ofName? name with
    | none => throw (helpOn arguments)
    | some command =>
      let (after, _) ← Reader.readFrom (some command) {} arguments
      let inner ← finish robot (some command) after
      let request ← inner.request command
      let outer ← finish robot none before
      return { request, robot := inner.robot || outer.robot, config := inner.config.orElse fun _ => outer.config }

end Invocation

namespace Refusal

/-- What a refusal says in one line; help and versions say nothing. -/
def message? : Refusal → Option String
  | helpAsked => none
  | helpNeeded => none
  | versionAsked _ => none
  | emptyValue label => some ("a value is required for '" ++ label ++ "' but none was supplied")
  | unknownValue value label => some ("invalid value '" ++ value ++ "' for '" ++ label ++ "'")
  | badSetting value label setting =>
    some ("invalid value '" ++ value ++ "' for '" ++ label ++ "': configuration error: " ++ setting.message)
  | surplusValue value label =>
    some ("unexpected value '" ++ value ++ "' for '" ++ label ++ "' found; no more were expected")
  | repeated label => some ("the argument '" ++ label ++ "' cannot be used multiple times")
  | unknownArgument text => some ("unexpected argument '" ++ text ++ "' found")
  | unknownCommand text => some ("unrecognized subcommand '" ++ text ++ "'")
  | missingCommand => some ("'" ++ Program.name ++ "' requires a subcommand but one was not provided")
  | missingInput => some "the following required arguments were not provided:"

/-- The name of the program or of one of its commands, with the version. -/
def versionText (scope : Scope) : String :=
  Program.name ++ ((scope.map fun command => "-" ++ command.name).getD "") ++ " " ++ Program.version

end Refusal

end ApiStyle
