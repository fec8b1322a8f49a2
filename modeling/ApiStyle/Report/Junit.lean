import ApiStyle.Program
import ApiStyle.Text.Entities
import ApiStyle.Validator

/-! Reports of a validation as JUnit test results: a failed test for each violation, or one passed test. -/

namespace ApiStyle.Report.Junit

/-- An attribute with its value, after a blank. -/
def given (name value : String) : String := " " ++ name ++ "=\"" ++ value ++ "\""

def counts (violations : List Violation) : String :=
  given "tests" (toString (max violations.length 1)) ++ given "failures" (toString violations.length)

def caseName (violation : Violation) : String :=
  match violation.place with
  | some place => violation.field ++ ": " ++ place
  | none => violation.field

def failedCase (violation : Violation) : List String :=
  let message := Text.Entities.encode violation.message
  ["    <testcase" ++ given "name" (Text.Entities.encode (caseName violation))
      ++ given "classname" violation.part.name ++ ">",
    "      <failure" ++ given "message" message ++ given "type" violation.pass.id ++ ">" ++ message
      ++ "</failure>",
    "    </testcase>"]

def cases (path : String) (violations : List Violation) : List String :=
  if violations.isEmpty then
    ["    <testcase" ++ given "name" path ++ given "classname" Program.name ++ "/>"]
  else violations.flatMap failedCase

def lines (path : String) (violations : List Violation) : List String :=
  let path := Text.Entities.encode path
  ["<?xml version=\"1.0\" encoding=\"UTF-8\"?>",
    "<testsuites" ++ counts violations ++ ">",
    "  <testsuite" ++ given "name" path ++ counts violations ++ ">"]
  ++ cases path violations
  ++ ["  </testsuite>", "</testsuites>"]

def report (path : String) (violations : List Violation) : String := "\n".intercalate (lines path violations)

end ApiStyle.Report.Junit
