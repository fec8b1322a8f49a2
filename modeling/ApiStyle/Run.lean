import ApiStyle.CommandLine.Invocation
import ApiStyle.Document.Load
import ApiStyle.Report.Data
import ApiStyle.Report.Junit
import ApiStyle.Report.Rules
import ApiStyle.Report.Sarif
import ApiStyle.Rules.Layers

/-! Runs of the program. A run sees its surroundings, and ends with a report, a failure, or both if
violations were found. -/

namespace ApiStyle

structure Outcome where
  report : Option String := none
  failure : Option Failure := none
deriving DecidableEq, Repr, Inhabited

namespace Outcome

def failed (failure : Failure) : Outcome := { failure := some failure }

def ok (report : String) : Outcome := { report := some report }

end Outcome

namespace Invocation

/-- Every path that a run may look at. -/
def paths (surroundings : Surroundings) (invocation : Invocation) : List Path :=
  match surroundings.directory with
  | .error _ => []
  | .ok start =>
    (Settings.namedFile surroundings.environment invocation.config).toList
      ++ surroundings.settings.toList.map (·.join Settings.userFile)
      ++ start.upwards.map (fun directory => directory.path.join Settings.projectFile)
      ++ match invocation.request with
        | .validate input .. => [input]
        | .rules _ => []

/-- The nearest directory with a project file, or else the current one. -/
def project (surroundings : Surroundings) : Except Failure Path :=
  match surroundings.directory with
  | .error reason => .error (.unreadable (.refused reason))
  | .ok start => .ok ((surroundings.nearestWith? start Settings.projectFile.text).getD start).path

/-- For programs, a report is data unless another format than the one for people is wanted. -/
def reportFormat (robot : Bool) (format : Format) : Format := if robot ∧ format = .human then .json else format

def reportText (colours : Bool) (format : Format) (path : String) (violations : List Violation) (config : Config) :
    String :=
  match format with
  | .human => (Report.human path violations config).text colours
  | .json => (Report.json path violations).prettyText
  | .sarif => (Report.Sarif.report {} path violations).prettyText
  | .junit => Report.Junit.report path violations

def validate (surroundings : Surroundings) (config : Config) (input : Path) :
    Except Failure (List Violation) := do
  let document ← Document.load surroundings input
  match ({} : Validator).validate? document config with
  | none => throw .noInfo
  | some violations => return violations

def outcome (surroundings : Surroundings) (colours robot : Bool) (config : Config) : Request → Outcome
  | .validate input format overrides =>
    let config := overrides.apply config
    match validate surroundings config input with
    | .error failure => .failed failure
    | .ok violations =>
      { report := some (reportText colours (reportFormat robot format) input.text violations config)
        failure := if violations.isEmpty then none else some (.violated violations.length) }
  | .rules format =>
    if format.getD (if robot then .json else .human) = .json then
      .ok (Report.passesJson {} config).prettyText
    else .ok ((Report.passesLayout {} config).text colours)

def run (surroundings : Surroundings) (colours : Bool) (invocation : Invocation) : Outcome :=
  match project surroundings >>= Settings.load surroundings invocation.config with
  | .error failure => .failed failure
  | .ok settings => outcome surroundings colours invocation.robot settings.config invocation.request

end Invocation

end ApiStyle
