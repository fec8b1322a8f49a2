import ApiStyle.Proofs.JunitReport
import ApiStyle.Proofs.Wording

/-! Which characters JUnit reports are made of. Entities only stand for what markup is made of, so any other character
of a path or a violation reaches a report as it is. As far as single characters go, a report is legal XML exactly if
these texts are; and documents can hold characters, above all control characters, that XML has no way to write. -/

namespace ApiStyle

open Text (Within)

variable {kind : Char → Prop}

namespace Markup

/-- The characters that XML 1.0 allows. -/
def IsLegal (character : Char) : Prop :=
  character ∈ ['\t', '\n', '\r'] ∨ 0x20 ≤ character.toNat ∧ character.toNat ≤ 0xD7FF ∨
    0xE000 ≤ character.toNat ∧ character.toNat ≤ 0xFFFD ∨ 0x10000 ≤ character.toNat

instance : DecidablePred IsLegal := fun _ => inferInstanceAs (Decidable (_ ∨ _))

theorem legal_wording : CoversWording IsLegal := by
  rintro character ⟨low, high⟩
  have high : character.toNat ≤ 0x7E := high
  exact .inr (.inl ⟨low, by omega⟩)

end Markup

namespace Text.Entities

private theorem inWording_of_entity {character : Char} {text : String} (found : entity? character = some text) :
    InWording character ∧ isWording text := by
  unfold entity? at found
  split at found
  case h_6 => cases found
  all_goals
    obtain rfl := Option.some.inj found
    decide

theorem within_encode (wording : CoversWording kind) {text : String} :
    Within kind (encode text) ↔ Within kind text := by
  have single (character : Char) : (∀ other ∈ encodeChar character, kind other) ↔ kind character := by
    unfold encodeChar
    split
    next entity found =>
      obtain ⟨own, others⟩ := inWording_of_entity found
      exact ⟨fun _ => wording character own, fun _ => wording.text others⟩
    next => simp
  rw [encode, within_ofList, List.forall_mem_flatMap]
  exact forall₂_congr fun character _ => single character

end Text.Entities

namespace Report.Junit

open Text (within_append)
open Text.Entities (encode within_encode)

section

variable (wording : CoversWording kind)

include wording

private theorem within_counts (violations : List Violation) : Within kind (counts violations) := by
  simp (disch := decide) only [counts, given, within_append, wording.text, wording.number, and_self]

private theorem within_caseName (violation : Violation) : Within kind (caseName violation) ↔
    Within kind violation.field ∧ ∀ place, violation.place = some place → Within kind place := by
  rw [caseName]
  cases violation.place with
  | none => simp
  | some place => simp (disch := decide) [within_append, wording.text]

private theorem within_failedCase (violation : Violation) :
    (∀ line ∈ failedCase violation, Within kind line) ↔ ∀ text ∈ violation.texts, Within kind text := by
  have pass : Within kind violation.pass.id := by
    cases violation.pass <;> exact wording.text (by decide)
  simp (disch := decide) only [failedCase, given, within_append, wording.text, wording.part, pass,
    within_encode wording, within_caseName wording, Violation.texts, List.forall_mem_cons, Option.mem_toList,
    List.not_mem_nil, false_imp_iff, implies_true, true_and, and_true]
  constructor
  · rintro ⟨⟨field, place⟩, message, _⟩
    exact ⟨field, message, place⟩
  · rintro ⟨field, message, place⟩
    exact ⟨⟨field, place⟩, message, message⟩

private theorem within_cases {path : String} {violations : List Violation} (around : Within kind path) :
    (∀ line ∈ cases path violations, Within kind line) ↔
      ∀ violation ∈ violations, ∀ text ∈ violation.texts, Within kind text := by
  unfold cases
  cases violations with
  | nil =>
    rw [List.isEmpty_nil, if_pos rfl, List.forall_mem_singleton]
    simp (disch := decide) only [given, within_append, wording.text, around, and_self, List.not_mem_nil, false_imp_iff,
      implies_true]
  | cons violation others =>
    rw [List.isEmpty_cons, if_neg Bool.false_ne_true, List.forall_mem_flatMap]
    exact forall₂_congr fun violation _ => within_failedCase wording violation

/-- Whatever the wording keeps to, reports leave it where their path and their violations do. -/
theorem within_report (break_ : kind '\n') (path : String) (violations : List Violation) :
    Within kind (report path violations) ↔
      Within kind path ∧ ∀ violation ∈ violations, ∀ text ∈ violation.texts, Within kind text := by
  have break_ : Within kind "\n" := List.forall_mem_singleton.mpr break_
  rw [report, Text.within_intercalate break_]
  simp (disch := decide) only [lines, given, within_append, wording.text, within_encode wording,
    within_counts wording, List.forall_mem_append, List.forall_mem_cons, List.not_mem_nil, false_imp_iff,
    implies_true, true_and, and_true]
  constructor
  · rintro ⟨around, each⟩
    exact ⟨around, (within_cases wording ((within_encode wording).mpr around)).mp each⟩
  · rintro ⟨around, each⟩
    exact ⟨around, (within_cases wording ((within_encode wording).mpr around)).mpr each⟩

end

/-- A report is made of legal characters exactly if its path is and all texts of the violations are. They are if the
texts of the document are; where one of these is not, nothing keeps it out of the report. -/
theorem report_legal_iff {document : Document} {config : Config} {violations : List Violation}
    (validated : ({} : Validator).validate? document config = some violations) (path : String) :
    (Within Markup.IsLegal (report path violations) ↔ Within Markup.IsLegal path ∧
      ∀ violation ∈ violations, ∀ text ∈ violation.texts, Within Markup.IsLegal text) ∧
    ((∀ text, document.Tells text → Within Markup.IsLegal text) →
      (Within Markup.IsLegal (report path violations) ↔ Within Markup.IsLegal path)) := by
  have characters := within_report Markup.legal_wording (by decide) path violations
  refine ⟨characters, fun told => characters.trans (and_iff_left ?_)⟩
  exact Document.within_of_validated Markup.legal_wording told validated

theorem pets_report_legal :
    ({} : Validator).validate? (.ofPath "/Pets") .namesOnly = some [.ofSegment "Pets"] ∧
      Within Markup.IsLegal (report "api.json" [.ofSegment "Pets"]) := by
  have validated : ({} : Validator).validate? (.ofPath "/Pets") .namesOnly = some [.ofSegment "Pets"] := by decide
  have around : Within Markup.IsLegal "api.json" := Markup.legal_wording.text (by decide)
  have texts : ∀ text ∈ (Violation.ofSegment "Pets").texts, Within Markup.IsLegal text :=
    Markup.legal_wording.texts (by decide)
  exact ⟨validated, (report_legal_iff validated "api.json").1.mpr ⟨around, List.forall_mem_singleton.mpr texts⟩⟩

/-- The document is loaded from a text that has an escape for the control character. -/
theorem control_character_reported : ¬ ∀ text document config violations path,
    (Document.ofJson text = .ok document ∨ Document.ofYaml text = .ok document) →
    ({} : Validator).validate? document config = some violations → Within Markup.IsLegal path →
    Within Markup.IsLegal (report path violations) := by
  intro every
  have loaded : Document.ofJson (Document.ofPath "/\x01").toJson.compactText = .ok (.ofPath "/\x01") :=
    Document.ofPath_loaded (by decide)
  have validated : ({} : Validator).validate? (.ofPath "/\x01") .namesOnly = some [.ofSegment "\x01"] := by decide
  have legal := every _ _ _ _ "api.json" (.inl loaded) validated (Markup.legal_wording.text (by decide))
  have texts := ((within_report Markup.legal_wording (by decide) _ _).mp legal).2 _ List.mem_cons_self
  exact absurd (texts "\x01" List.mem_cons_self '\x01' List.mem_cons_self) (by decide)

end Report.Junit

end ApiStyle
