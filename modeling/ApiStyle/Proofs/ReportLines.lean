import ApiStyle.Proofs.Wording
import ApiStyle.Report.Human

/-! The lines of reports for people: a verdict, a line for each violation and a summary. All texts are shown as they
are, so these are the lines that a reader sees exactly if no violation holds a line feed. Violations hold one, or any
other break, only if a text of the document does; and documents can hold all of them. -/

namespace ApiStyle

open Text (Within within_append)

variable {kind : Char → Prop}

namespace Text

/-- Where a line ends: line feeds, vertical tabs, form feeds, carriage returns, next lines and the separators of lines
and paragraphs. -/
def breaks : List Char := ['\n', '\x0b', '\x0c', '\r', '\u0085', '\u2028', '\u2029']

def IsBreak (character : Char) : Prop := character ∈ breaks

instance : DecidablePred IsBreak := fun character => inferInstanceAs (Decidable (character ∈ breaks))

theorem unbroken_wording : CoversWording (¬ IsBreak ·) := by
  intro character inside ends
  have outside : breaks.all fun other => !decide (InWording other) := by decide
  simpa [inside] using List.all_eq_true.mp outside character ends

/-- A text of one line, as far as line feeds go. -/
def OneLine (text : String) : Prop := Within (· ≠ '\n') text

theorem oneLine_iff {text : String} : OneLine text ↔ '\n' ∉ text.toList := by
  simp only [OneLine, Within, List.forall_mem_ne']

theorem oneLine_wording : CoversWording (· ≠ '\n') := by
  rintro character inside rfl
  exact absurd inside (by decide)

theorem OneLine.of_unbroken {text : String} (unbroken : Within (¬ IsBreak ·) text) : OneLine text := by
  rintro character member rfl
  exact unbroken _ member (by decide)

end Text

open Text (OneLine)

namespace Layout

variable {layout : Layout}

/-- The lines of a layout without colours. -/
def plain (layout : Layout) : List String := layout.lines.map (lineText false)

private theorem text_plain : layout.text false = "\n".intercalate layout.plain := rfl

theorem plain_add (line : List Span) : (layout.add line).plain = layout.plain ++ [lineText false line] := by
  rw [plain, add, List.map_append, List.map_singleton, plain]

/-- A key and its value on a line. -/
def pairText (key value : String) : String := padded key ++ " " ++ value

theorem plain_pair (key value : String) : (layout.pair key value).plain = layout.plain ++ [pairText key value] := by
  rw [pair, plain_add]
  simp [lineText, Span.render, String.join, pairText, String.append_assoc]

theorem within_pairText (wording : CoversWording kind) {key value : String} (left : Within kind key)
    (right : Within kind value) : Within kind (pairText key value) := by
  have spaces (count : Nat) : Within kind (String.ofList (List.replicate count ' ')) := by
    rw [Text.within_ofList]
    intro character member
    rw [List.eq_of_mem_replicate member]
    exact wording ' ' (by decide)
  simp (disch := decide) only [pairText, padded, within_append, wording.text, left, right, spaces, and_self]

end Layout

namespace Report

open Layout (pairText)

/-- What is said first, with a blank line before any violations. -/
def verdict (path : String) (violations : List Violation) : List String :=
  if violations.isEmpty then ["✓ " ++ path] else ["✗ " ++ path, ""]

/-- The line of a violation. -/
def violationText (violation : Violation) : String :=
  "  [" ++ violation.part.name ++ "] " ++ violation.field ++ " " ++ violation.message
    ++ (violation.place.map fun place => " (" ++ place ++ ")").getD ""

/-- The counts of the sections that have any violations. -/
def countTexts (violations : List Violation) (parts : List Section) : List String :=
  (parts.filter fun part => countIn part violations ≠ 0).map fun part =>
    pairText ("  " ++ part.name) (toString (countIn part violations))

/-- What is said last. -/
def summary (path : String) (violations : List Violation) (config : Config) : List String :=
  ["", "Summary", "-------", pairText "Document" path, pairText "Violations" (toString violations.length)]
    ++ countTexts violations Section.all
    ++ if config.disabled.isEmpty then []
      else [pairText "Disabled rules" (", ".intercalate (config.disabled.map Toggle.id))]

private theorem lineText_violationLine (violation : Violation) :
    Layout.lineText false (violationLine violation) = violationText violation := by
  apply String.toList_inj.mp
  simp [violationLine, Layout.lineText, Span.render, String.join, violationText]

private theorem plain_findings (path : String) (violations : List Violation) :
    (findings path violations).plain = verdict path violations ++ violations.map violationText := by
  have lines : violations.map (Layout.lineText false ∘ violationLine) = violations.map violationText :=
    List.map_congr_left fun violation _ => lineText_violationLine violation
  rw [findings, verdict]
  split
  next none =>
    rw [List.isEmpty_iff.mp none]
    simp [Layout.plain, Layout.lineText, Span.render, String.join]
  next =>
    rw [Layout.plain, List.map_append, List.map_map, lines]
    simp [Layout.lineText, Span.render, String.join]

private theorem plain_counts (violations : List Violation) (parts : List Section) (layout : Layout) :
    (parts.foldl (sectionCount violations) layout).plain = layout.plain ++ countTexts violations parts := by
  induction parts generalizing layout with
  | nil => exact (List.append_nil _).symm
  | cons part parts ih =>
    rw [List.foldl_cons, ih, sectionCount]
    by_cases none : countIn part violations = 0
    · simp [none, countTexts]
    · simp [none, countTexts, Layout.plain_pair]

theorem plain_human (path : String) (violations : List Violation) (config : Config) :
    (human path violations config).plain =
      verdict path violations ++ violations.map violationText ++ summary path violations config := by
  have heading (layout : Layout) :
      (layout.blank.heading "Summary").plain = layout.plain ++ ["", "Summary", "-------"] := by
    simp only [Layout.blank, Layout.heading, Layout.line, Layout.plain_add, List.append_assoc]
    rfl
  have counted := plain_counts violations Section.all
    ((((findings path violations).blank.heading "Summary").pair "Document" path).pair "Violations"
      (toString violations.length))
  rw [Layout.plain_pair, Layout.plain_pair, heading, plain_findings] at counted
  unfold human
  dsimp only
  split
  next none =>
    rw [counted, summary, if_pos none]
    simp
  next some =>
    rw [Layout.plain_pair, counted, summary, if_neg some]
    simp

section

variable (wording : CoversWording kind)

include wording

private theorem within_violationText (violation : Violation) :
    Within kind (violationText violation) ↔ ∀ text ∈ violation.texts, Within kind text := by
  simp (disch := decide) only [violationText, Violation.texts, within_append, wording.text, wording.part,
    wording.suffix, List.forall_mem_cons, Option.mem_toList, Option.mem_def, true_and, and_true, and_assoc]

private theorem within_countTexts (violations : List Violation) (parts : List Section) :
    ∀ line ∈ countTexts violations parts, Within kind line := by
  intro line member
  obtain ⟨part, _, rfl⟩ := List.mem_map.mp member
  have key : Within kind ("  " ++ part.name) := within_append.mpr ⟨wording.text (by decide), wording.part part⟩
  exact Layout.within_pairText wording key (wording.number _)

private theorem within_summary {path : String} (around : Within kind path) (violations : List Violation)
    (config : Config) :
    ∀ line ∈ summary path violations config, Within kind line := by
  have ids : Within kind (", ".intercalate (config.disabled.map Toggle.id)) := by
    rw [Text.within_intercalate (wording.text (by decide)), List.forall_mem_map]
    intro toggle _
    cases toggle <;> exact wording.text (by decide)
  unfold summary
  simp only [List.forall_mem_append]
  refine ⟨⟨?_, within_countTexts wording violations Section.all⟩, ?_⟩
  · have document : Within kind (pairText "Document" path) :=
      Layout.within_pairText wording (wording.text (by decide)) around
    have count : Within kind (pairText "Violations" (toString violations.length)) :=
      Layout.within_pairText wording (wording.text (by decide)) (wording.number _)
    simp (disch := decide) only [List.forall_mem_cons, wording.text, document, count, List.not_mem_nil, false_imp_iff,
      implies_true, and_self]
  · split
    · exact List.forall_mem_nil _
    · exact List.forall_mem_singleton.mpr (Layout.within_pairText wording (wording.text (by decide)) ids)

end

private theorem oneLine_verdict {path : String} (around : OneLine path) (violations : List Violation) :
    ∀ line ∈ verdict path violations, OneLine line := by
  have accepted : OneLine "✓ " := Text.oneLine_iff.mpr (by decide)
  have rejected : OneLine "✗ " := Text.oneLine_iff.mpr (by decide)
  have blank : OneLine "" := Text.oneLine_iff.mpr List.not_mem_nil
  unfold verdict
  split
  · exact List.forall_mem_singleton.mpr (within_append.mpr ⟨accepted, around⟩)
  · exact List.forall_mem_cons.mpr ⟨within_append.mpr ⟨rejected, around⟩, List.forall_mem_singleton.mpr blank⟩

/-- The lines that a reader sees are those of the report exactly if every violation is on one line. -/
theorem split_human_iff {path : String} (around : OneLine path) (violations : List Violation) (config : Config) :
    Text.split '\n' ((human path violations config).text false) =
        verdict path violations ++ violations.map violationText ++ summary path violations config ↔
      ∀ violation ∈ violations, ∀ text ∈ violation.texts, OneLine text := by
  have some : verdict path violations ++ violations.map violationText ++ summary path violations config ≠ [] := by
    simp [summary]
  have cut := Text.split_intercalate_iff '\n' some
  rw [Layout.text_plain, plain_human]
  refine cut.trans ?_
  simp only [← Text.oneLine_iff, List.forall_mem_append, List.forall_mem_map]
  constructor
  · rintro ⟨⟨_, each⟩, _⟩ violation member
    exact (within_violationText Text.oneLine_wording violation).mp (each violation member)
  · intro each
    refine ⟨⟨oneLine_verdict around violations, fun violation member => ?_⟩,
      within_summary Text.oneLine_wording around violations config⟩
    exact (within_violationText Text.oneLine_wording violation).mpr (each violation member)

/-- What violations say has breaks exactly where their texts do, and a report has one line for each violation, in order,
exactly if these hold no line feeds. If no text of the document has a break, no violation has one and each has its
line. -/
theorem lines_iff_unbroken {document : Document} {config : Config} {violations : List Violation} {path : String}
    (validated : ({} : Validator).validate? document config = some violations) (around : OneLine path) :
    (∀ violation ∈ violations, Within (¬ Text.IsBreak ·) violation.line ↔
      ∀ text ∈ violation.texts, Within (¬ Text.IsBreak ·) text) ∧
    (Text.split '\n' ((human path violations config).text false) =
        verdict path violations ++ violations.map violationText ++ summary path violations config ↔
      ∀ violation ∈ violations, ∀ text ∈ violation.texts, OneLine text) ∧
    ((∀ text, document.Tells text → Within (¬ Text.IsBreak ·) text) →
      (∀ violation ∈ violations, Within (¬ Text.IsBreak ·) violation.line) ∧
      Text.split '\n' ((human path violations config).text false) =
        verdict path violations ++ violations.map violationText ++ summary path violations config) := by
  refine ⟨fun violation _ => violation.within_line Text.unbroken_wording, split_human_iff around violations config, ?_⟩
  intro told
  have unbroken := Document.within_of_validated Text.unbroken_wording told validated
  constructor
  · intro violation member
    exact (violation.within_line Text.unbroken_wording).mpr (unbroken violation member)
  · refine (split_human_iff around violations config).mpr ?_
    intro violation member text present
    exact .of_unbroken (unbroken violation member text present)

theorem pets_on_one_line :
    ({} : Validator).validate? (.ofPath "/Pets") .namesOnly = some [.ofSegment "Pets"] ∧ OneLine "api.json" ∧
      Text.split '\n' ((human "api.json" [.ofSegment "Pets"] .namesOnly).text false) =
        verdict "api.json" [.ofSegment "Pets"] ++ [violationText (.ofSegment "Pets")] ++
          summary "api.json" [.ofSegment "Pets"] .namesOnly := by
  have validated : ({} : Validator).validate? (.ofPath "/Pets") .namesOnly = some [.ofSegment "Pets"] := by decide
  have around : OneLine "api.json" := Text.oneLine_wording.text (by decide)
  have texts : ∀ text ∈ (Violation.ofSegment "Pets").texts, OneLine text :=
    Text.oneLine_wording.texts (by decide)
  exact ⟨validated, around, (lines_iff_unbroken validated around).2.1.mpr (List.forall_mem_singleton.mpr texts)⟩

/-- The document is loaded from a text that has an escape for the line feed. -/
theorem line_feed_reported :
    Document.ofJson (Document.ofPath "/a\nb").toJson.compactText = .ok (.ofPath "/a\nb") ∧
      ({} : Validator).validate? (.ofPath "/a\nb") .namesOnly = some [.ofSegment "a\nb"] ∧
      ¬ Within (¬ Text.IsBreak ·) (Violation.ofSegment "a\nb").line ∧
      Text.split '\n' ((human "api.json" [.ofSegment "a\nb"] .namesOnly).text false) ≠
        verdict "api.json" [.ofSegment "a\nb"] ++ [violationText (.ofSegment "a\nb")] ++
          summary "api.json" [.ofSegment "a\nb"] .namesOnly := by
  have broken : ¬ ∀ text ∈ (Violation.ofSegment "a\nb").texts, OneLine text := fun whole =>
    absurd rfl (whole "a\nb" List.mem_cons_self '\n' (by decide))
  refine ⟨Document.ofPath_loaded (by decide), by decide, fun unbroken => ?_, fun same => ?_⟩
  · have texts := (Violation.within_line Text.unbroken_wording _).mp unbroken
    exact broken fun text member => .of_unbroken (texts text member)
  · have around : OneLine "api.json" := Text.oneLine_wording.text (by decide)
    have texts := (split_human_iff around _ _).mp same
    exact broken (texts _ List.mem_cons_self)

end Report

end ApiStyle
