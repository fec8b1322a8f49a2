import ApiStyle.Report.Layout
import ApiStyle.Validator

/-! Reports of a validation for people: the violations, one on a line, and then a summary. -/

namespace ApiStyle.Report

def violationLine (violation : Violation) : List Span :=
  [⟨"  ", none⟩, ⟨"[" ++ violation.part.name ++ "]", some .cyan⟩, ⟨" ", none⟩, ⟨violation.field, some .yellow⟩,
    ⟨" " ++ violation.message, none⟩,
    ⟨(violation.place.map fun place => " (" ++ place ++ ")").getD "", some .dim⟩]

/-- The verdict on a document and the violations below it. -/
def findings (path : String) (violations : List Violation) : Layout :=
  if violations.isEmpty then ⟨[[⟨"✓", some .green⟩, ⟨" ", none⟩, ⟨path, some .dim⟩]]⟩
  else ⟨[[⟨"✗", some .red⟩, ⟨" ", none⟩, ⟨path, some .bold⟩], []] ++ violations.map violationLine⟩

def countIn (part : Section) (violations : List Violation) : Nat := violations.countP (·.part = part)

/-- The number of violations of a section, if there are any. -/
def sectionCount (violations : List Violation) (layout : Layout) (part : Section) : Layout :=
  let count := countIn part violations
  if count = 0 then layout else layout.pair ("  " ++ part.name) (toString count)

def human (path : String) (violations : List Violation) (config : Config) : Layout :=
  let layout := ((findings path violations).blank.heading "Summary").pair "Document" path
  let layout := layout.pair "Violations" (toString violations.length)
  let layout := Section.all.foldl (sectionCount violations) layout
  if config.disabled.isEmpty then layout
  else layout.pair "Disabled rules" (", ".intercalate (config.disabled.map Toggle.id))

end ApiStyle.Report
