import ApiStyle.Program
import ApiStyle.Validator
import ApiStyle.Json.Text

/-! Reports of a validation as SARIF, the exchange format of code scanners: a rule for each pass and a
result for each violation. -/

namespace ApiStyle.Report.Sarif

def message (text : String) : Json := .object [("text", .string text)]

def rule (pass : Pass) : Json :=
  .object [("id", .string pass.id), ("name", .string pass.name),
    ("shortDescription", message pass.description),
    ("defaultConfiguration", .object [("level", .string "warning")])]

def location (path : String) (violation : Violation) : Json :=
  .record [("physicalLocation", some (.object [("artifactLocation", .object [("uri", .string path)])])),
    ("logicalLocations", violation.place.map fun place => .array [.object [("name", .string place)]])]

def result (path : String) (violation : Violation) : Json :=
  .object [("ruleId", .string violation.pass.id), ("level", .string "warning"),
    ("message", message violation.line), ("locations", .array [location path violation])]

def report (validator : Validator) (path : String) (violations : List Violation) : Json :=
  let driver := Json.object [("name", .string Program.name), ("version", .string Program.version),
    ("rules", .array (validator.passes.map rule))]
  .object [("$schema", .string "https://json.schemastore.org/sarif-2.1.0.json"), ("version", .string "2.1.0"),
    ("runs", .array [.object [("tool", .object [("driver", driver)]),
      ("results", .array (violations.map (result path)))]])]

end ApiStyle.Report.Sarif
