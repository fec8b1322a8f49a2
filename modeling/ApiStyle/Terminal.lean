import ApiStyle.Run

/-! What a run leaves on the terminal. Reports go to the output; failures go to the errors, or for programs
as JSON to the output, except that violations have been reported already. -/

namespace ApiStyle

structure Screen where
  output : String := ""
  errors : String := ""
  exit : Nat := 0
deriving DecidableEq, Repr, Inhabited

namespace Failure

def toJson (failure : Failure) : Json :=
  .object [("code", .string failure.code), ("error", .bool true), ("message", .string failure.message)]

def isViolated : Failure → Bool
  | violated _ => true
  | _ => false

/-- What a failure shows. -/
def screen (robot : Bool) (failure : Failure) : Screen :=
  if robot then
    { output := if failure.isViolated then "" else failure.toJson.compactText ++ "\n", exit := 1 }
  else { errors := "Error: " ++ failure.message ++ "\n", exit := 1 }

end Failure

namespace Outcome

def screen (robot : Bool) (outcome : Outcome) : Screen :=
  let report := (outcome.report.map (· ++ "\n")).getD ""
  match outcome.failure with
  | none => { output := report }
  | some failure =>
    let shown := failure.screen robot
    { shown with output := report ++ shown.output }

end Outcome

namespace Terminal

def usage : String :=
  "Style linter for OpenAPI documents\n\nUsage: " ++ Program.name ++ " [OPTIONS] <COMMAND>\n\n"
    ++ "Commands:\n  validate  Check an OpenAPI document against the style rules\n"
    ++ "  rules     List the validation passes and the toggles that control them\n"

def refusalScreen (refusal : Refusal) : Screen :=
  match refusal.message? with
  | some message =>
    { errors := "error: " ++ message ++ "\n\nFor more information, try '--help'.\n", exit := 2 }
  | none =>
    match refusal with
    | .versionAsked scope => { output := Refusal.versionText scope ++ "\n" }
    | .helpAsked => { output := usage }
    | _ => { errors := usage, exit := 2 }

/-- Whether reports have colours: always if a variable forces them, else on a terminal that can and may show them. -/
def hasColours (environment : String → Option String) (onTerminal : Bool) : Bool :=
  let allowed := environment "NO_COLOR" = none ∧ environment "TERM" ≠ some "dumb" ∧ environment "CLICOLOR" ≠ some "0"
  (environment "CLICOLOR_FORCE").getD "0" ≠ "0" || (onTerminal && decide allowed)

/-- Every variable that a run depends on. -/
def variableNames : List String :=
  ["XDG_CONFIG_HOME", "HOME", "NO_COLOR", "TERM", "CLICOLOR", "CLICOLOR_FORCE", Given.robotVariable]
    ++ Settings.variableNames

/-- Every path that a run with these arguments may look at. -/
def paths (surroundings : Surroundings) (arguments : List String) : List Path :=
  match Invocation.ofArguments (surroundings.environment Given.robotVariable) arguments with
  | .error _ => []
  | .ok invocation => invocation.paths surroundings

def answer (surroundings : Surroundings) (onTerminal : Bool) (arguments : List String) : Screen :=
  match Invocation.ofArguments (surroundings.environment Given.robotVariable) arguments with
  | .error refusal => refusalScreen refusal
  | .ok invocation =>
    (invocation.run surroundings (hasColours surroundings.environment onTerminal)).screen invocation.robot

end Terminal

end ApiStyle
