import ApiStyle.Json.Text
import ApiStyle.Report.Human
import ApiStyle.Violation.Json

/-! Reports of a validation as data. -/

namespace ApiStyle.Report

def violationJson (violation : Violation) : Json :=
  .record [("rule", some (.string violation.pass.id)), ("section", some (.string violation.part.name)),
    ("field", some (.string violation.field)), ("message", some (.string violation.message)),
    ("location", violation.place.map .string), ("detail", some violation.toJson)]

def sectionJson (violations : List Violation) (part : Section) : Json :=
  .object [("section", .string part.name), ("count", .nat (countIn part violations))]

def json (path : String) (violations : List Violation) : Json :=
  .object [("path", .string path), ("passed", .bool violations.isEmpty),
    ("violations", .array (violations.map violationJson)),
    ("summary", .object [("total", .nat violations.length),
      ("by_section", .array (Section.all.map (sectionJson violations)))])]

end ApiStyle.Report
