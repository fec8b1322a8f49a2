import ApiStyle.Proofs.Markup
import ApiStyle.Report.Junit

/-! JUnit reports cannot be broken out of. A report is its elements laid out line by line, with every text in them
encoded, so its tags are those of one skeleton whatever the path and the violations hold. -/

namespace ApiStyle.Report.Junit

open Text Markup

def declaration : Element := ⟨"?xml", [("version", "1.0"), ("encoding", "UTF-8")], "?"⟩

def counted (violations : List Violation) : List (String × String) :=
  [("tests", toString (max violations.length 1)), ("failures", toString violations.length)]

def suites (violations : List Violation) : Element := ⟨"testsuites", counted violations, ""⟩

def suite (path : String) (violations : List Violation) : Element :=
  ⟨"testsuite", ("name", path) :: counted violations, ""⟩

def passedTest (path : String) : Element := ⟨"testcase", [("name", path), ("classname", Program.name)], "/"⟩

/-- A test is called by a field, and by the place of it if there is one. -/
def failedTest (violation : Violation) : Element :=
  ⟨"testcase", [("name", violation.field ++ (violation.place.map (": " ++ ·)).getD ""),
    ("classname", violation.part.name)], ""⟩

def failure (violation : Violation) : Element :=
  ⟨"failure", [("message", violation.message), ("type", violation.pass.id)], ""⟩

def closing (name : String) : Element := ⟨"/" ++ name, [], ""⟩

def failedElements (violation : Violation) : List Element :=
  [failedTest violation, failure violation, closing "failure", closing "testcase"]

def skeleton (path : String) (violations : List Violation) : List Element :=
  [declaration, suites violations, suite path violations]
  ++ (if violations = [] then [passedTest path] else violations.flatMap failedElements)
  ++ [closing "testsuite", closing "testsuites"]

private theorem encode_toString (value : Nat) : Entities.encode (toString value) = toString value := by
  refine Entities.encode_of_plain (List.all_eq_true.mpr fun character member => ?_)
  rw [Nat.toString_eq_ofList_toDigits, String.toList_ofList] at member
  have digit := Nat.isDigit_of_mem_toDigits (by decide) (by decide) member
  unfold Entities.entity?
  split
  case h_6 => rfl
  all_goals cases digit

private theorem encode_partName (part : Section) : Entities.encode part.name = part.name := by
  cases part <;> exact Entities.encode_of_plain (by decide)

private theorem encode_passId (pass : Pass) : Entities.encode pass.id = pass.id := by
  cases pass <;> exact Entities.encode_of_plain (by decide)

private theorem caseName_eq (violation : Violation) :
    caseName violation = violation.field ++ (violation.place.map (": " ++ ·)).getD "" := by
  unfold caseName
  split
  next place found =>
    rw [found, String.append_assoc]
    rfl
  next none =>
    rw [none]
    exact String.append_empty.symm

theorem encode_blanks : Entities.encode "" = "" ∧ Entities.encode "\n" = "\n" ∧ Entities.encode "\n  " = "\n  " ∧
    Entities.encode "\n    " = "\n    " ∧ Entities.encode "\n      " = "\n      " := ⟨rfl, rfl, rfl, rfl, rfl⟩

/-- The elements of a failed test, each with the text before it. -/
def failedParts (violation : Violation) : List (String × Element) :=
  [("\n    ", failedTest violation), ("\n      ", failure violation), (violation.message, closing "failure"),
    ("\n    ", closing "testcase")]

def caseParts (path : String) (violations : List Violation) : List (String × Element) :=
  if violations = [] then [("\n    ", passedTest path)] else violations.flatMap failedParts

def reportParts (path : String) (violations : List Violation) : List (String × Element) :=
  ("", declaration) :: ([("\n", suites violations), ("\n  ", suite path violations)] ++ caseParts path violations
    ++ [("\n  ", closing "testsuite"), ("\n", closing "testsuites")])

private theorem elements_reportParts (path : String) (violations : List Violation) :
    (reportParts path violations).map Prod.snd = skeleton path violations := by
  have failed (violation : Violation) : (failedParts violation).map Prod.snd = failedElements violation := rfl
  unfold reportParts caseParts skeleton
  split <;> simp [List.map_flatMap, failed]

private theorem counts_written (violations : List Violation) :
    (counts violations).toList = (counted violations).flatMap attributeText := by
  simp only [counted, List.flatMap_cons, List.flatMap_nil, attributeText, encode_toString]
  simp [counts, given]

private theorem failedCase_written (violation : Violation) :
    ((failedCase violation).flatMap fun line => '\n' :: line.toList) = (failedParts violation).flatMap written := by
  simp [failedCase, failedParts, given, written, Element.text, attributeText, failedTest, failure, closing,
    encode_blanks, encode_partName, encode_passId, caseName_eq]

private theorem cases_written (path : String) (violations : List Violation) :
    ((cases (Entities.encode path) violations).flatMap fun line => '\n' :: line.toList) =
      (caseParts path violations).flatMap written := by
  unfold cases caseParts
  cases violations with
  | nil =>
    have tool : Entities.encode Program.name = Program.name := Entities.encode_of_plain (by decide)
    simp [given, written, Element.text, attributeText, passedTest, encode_blanks, tool]
  | cons violation violations =>
    rw [if_neg (by simp), if_neg (by simp), List.flatMap_assoc, List.flatMap_assoc]
    exact List.flatMap_congr fun violation _ => failedCase_written violation

theorem report_written (path : String) (violations : List Violation) :
    (report path violations).toList = (reportParts path violations).flatMap written := by
  have heading : "<?xml version=\"1.0\" encoding=\"UTF-8\"?>".toList = written ("", declaration) := rfl
  have opened : ["<testsuites" ++ counts violations ++ ">",
      "  <testsuite" ++ given "name" (Entities.encode path) ++ counts violations ++ ">"].flatMap
        (fun line => '\n' :: line.toList) =
      [("\n", suites violations), ("\n  ", suite path violations)].flatMap written := by
    simp [counts_written, given, written, Element.text, attributeText, suites, suite, encode_blanks]
  have closed : ["  </testsuite>", "</testsuites>"].flatMap (fun line => '\n' :: line.toList) =
      [("\n  ", closing "testsuite"), ("\n", closing "testsuites")].flatMap written := rfl
  have others := congrArg₂ (· ++ ·) (congrArg₂ (· ++ ·) opened (cases_written path violations)) closed
  simp only [← List.flatMap_append] at others
  rw [reportParts, List.flatMap_cons, ← heading, ← others]
  exact toList_lines _ _

private theorem isPlain_failed (violation : Violation) :
    ∀ element ∈ failedElements violation, element.IsPlain := by
  simp only [failedElements, List.forall_mem_cons]
  refine ⟨?_, ?_, ⟨by decide, by decide, by decide, by decide⟩, ⟨by decide, by decide, by decide, by decide⟩,
    List.forall_mem_nil _⟩
  · constructor <;> simp [failedTest]
  · constructor <;> simp [failure]

private theorem isPlain_skeleton {path : String} {violations : List Violation} :
    ∀ element ∈ skeleton path violations, element.IsPlain := by
  have tests : ∀ element ∈ (if violations = [] then [passedTest path] else violations.flatMap failedElements),
      element.IsPlain := by
    intro element member
    split at member
    · obtain rfl := List.mem_singleton.mp member
      constructor <;> simp [passedTest]
    · obtain ⟨violation, _, member⟩ := List.mem_flatMap.mp member
      exact isPlain_failed violation element member
  simp only [skeleton, List.forall_mem_append, List.forall_mem_cons]
  refine ⟨⟨⟨⟨by decide, by decide, by decide, by decide⟩, ?_, ?_, List.forall_mem_nil _⟩, tests⟩,
    ⟨by decide, by decide, by decide, by decide⟩, ⟨by decide, by decide, by decide, by decide⟩, List.forall_mem_nil _⟩
  · constructor <;> simp [suites, counted]
  · constructor <;> simp [suite, counted]

private theorem filter_failedParts (violation : Violation) :
    (failedParts violation).filter (·.2.name = "/failure") = [(violation.message, closing "failure")] := by
  simp [failedParts, failedTest, failure, closing]

private theorem filter_caseParts (path : String) (violations : List Violation) :
    (caseParts path violations).filter (·.2.name = "/failure") =
      violations.map fun violation => (violation.message, closing "failure") := by
  unfold caseParts
  split
  next none =>
    subst none
    simp [passedTest]
  next =>
    rw [List.filter_flatMap, List.map_eq_flatMap]
    exact List.flatMap_congr fun violation _ => filter_failedParts violation

private theorem texts_of_failures (path : String) (violations : List Violation) :
    ((reportParts path violations).filter (·.2.name = "/failure")).map Prod.fst = violations.map Violation.message := by
  simp [reportParts, filter_caseParts, declaration, suites, suite, closing]

private theorem blank_failedParts (violation : Violation) :
    ∀ part ∈ failedParts violation, part.2.name ≠ "/failure" →
      ∀ character ∈ part.1.toList, character = ' ' ∨ character = '\n' := by
  simp only [failedParts, List.forall_mem_cons]
  exact ⟨by simp, by simp, fun other => absurd rfl other, by simp, List.forall_mem_nil _⟩

private theorem blank_elsewhere {path : String} {violations : List Violation} :
    ∀ part ∈ reportParts path violations, part.2.name ≠ "/failure" →
      ∀ character ∈ part.1.toList, character = ' ' ∨ character = '\n' := by
  have cases : ∀ part ∈ caseParts path violations, part.2.name ≠ "/failure" →
      ∀ character ∈ part.1.toList, character = ' ' ∨ character = '\n' := by
    intro part member
    unfold caseParts at member
    split at member
    · obtain rfl := List.mem_singleton.mp member
      simp
    · obtain ⟨violation, _, member⟩ := List.mem_flatMap.mp member
      exact blank_failedParts violation part member
  simp only [reportParts, List.forall_mem_cons, List.forall_mem_append]
  refine ⟨by simp, ⟨⟨by simp, by simp, List.forall_mem_nil _⟩, cases⟩, by simp, by simp, List.forall_mem_nil _⟩

/-- Whatever texts the path and the violations hold, a reader of the tags of a report finds the elements that it
should have, tells every path, name and message, and finds nothing but white space where no message should be. -/
theorem report_read_back (path : String) (violations : List Violation) :
    ∃ parts, Markup.read (report path violations) = some parts ∧
      parts.map Prod.snd = skeleton path violations ∧
      (parts.filter (·.2.name = "/failure")).map Prod.fst = violations.map Violation.message ∧
      ∀ part ∈ parts, part.2.name ≠ "/failure" → ∀ character ∈ part.1.toList, character = ' ' ∨ character = '\n' := by
  have plain : ∀ part ∈ reportParts path violations, part.2.IsPlain := by
    intro part member
    apply isPlain_skeleton
    rw [← elements_reportParts]
    exact List.mem_map_of_mem member
  have read := read_written plain
  rw [← report_written, String.ofList_toList] at read
  exact ⟨reportParts path violations, read, elements_reportParts path violations, texts_of_failures path violations,
    blank_elsewhere⟩

end ApiStyle.Report.Junit
