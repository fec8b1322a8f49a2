import ApiStyle.Proofs.Wording
import ApiStyle.Report.Human
import ApiStyle.Report.Rules

/-! Reports with and without colours. Colours only put style sequences around pieces of text: without the sequences the
two are the same report, as long as no text has an escape character of its own. Keys are padded before they are styled,
so that values stand in the same column either way. -/

namespace ApiStyle

open Text (within_append)

namespace Text

/-- What a terminal's sequences start with. -/
def escape : Char := '\x1b'

/-- What stands inside a style sequence. -/
def isStyleCode (character : Char) : Bool := character.isDigit || character == ';'

/-- What is behind the style sequence that a text starts with. -/
def behindStyle? : List Char → Option (List Char)
  | '\x1b' :: '[' :: rest =>
    match rest.dropWhile isStyleCode with
    | 'm' :: after => some after
    | _ => none
  | _ => none

private theorem length_of_behindStyle? {text after : List Char} (found : behindStyle? text = some after) :
    after.length < text.length := by
  unfold behindStyle? at found
  split at found
  next rest =>
    split at found
    next left ended =>
      obtain rfl := Option.some.inj found
      have shorter := (List.dropWhile_suffix isStyleCode (l := rest)).length_le
      rw [ended] at shorter
      simp only [List.length_cons] at shorter ⊢
      omega
    next => cases found
  next => cases found

/-- A text without its style sequences. -/
def unstyled : List Char → List Char
  | [] => []
  | character :: rest =>
    match _found : behindStyle? (character :: rest) with
    | some after => unstyled after
    | none => character :: unstyled rest
termination_by text => text.length
decreasing_by
  · exact length_of_behindStyle? _found
  · simp

private theorem unstyled_cons {character : Char} (plain : character ≠ escape) (rest : List Char) :
    unstyled (character :: rest) = character :: unstyled rest := by
  have none : behindStyle? (character :: rest) = none := by
    unfold behindStyle?
    split
    next same => exact absurd (List.cons.inj same).1 plain
    next => rfl
  rw [unstyled]
  split
  next after found =>
    rw [none] at found
    cases found
  next => rfl

/-- Without style sequences one text is the other, whatever comes behind it. -/
def Shows (text plain : List Char) : Prop := ∀ rest, unstyled (text ++ rest) = plain ++ unstyled rest

namespace Shows

variable {text plain : List Char}

theorem unstyled_eq (shows : Shows text plain) : unstyled text = plain := by
  have alone := shows []
  rwa [List.append_nil, unstyled, List.append_nil] at alone

theorem nil : Shows [] [] := fun _ => rfl

theorem append {more others : List Char} (first : Shows text plain) (second : Shows more others) :
    Shows (text ++ more) (plain ++ others) := by
  intro rest
  rw [List.append_assoc, first, second, List.append_assoc]

theorem of_plain (plain : escape ∉ text) : Shows text text := by
  intro rest
  induction text with
  | nil => rfl
  | cons character text ih =>
    have here : character ≠ escape := fun same => plain (same ▸ List.mem_cons_self)
    have later : escape ∉ text := fun inside => plain (List.mem_cons_of_mem character inside)
    rw [List.cons_append, unstyled_cons here, ih later, List.cons_append]

theorem style {codes : List Char} (all : codes.all isStyleCode) :
    Shows (escape :: '[' :: (codes ++ ['m'])) [] := by
  intro rest
  have behind : behindStyle? (escape :: ('[' :: (codes ++ ['m']) ++ rest)) = some rest := by
    have ended : (codes ++ ['m'] ++ rest).dropWhile isStyleCode = 'm' :: rest := by
      rw [List.append_assoc, List.dropWhile_append_of_pos (List.all_eq_true.mp all)]
      rfl
    simp only [behindStyle?, escape, List.cons_append, ended]
  rw [List.cons_append, unstyled]
  split
  next after found =>
    obtain rfl := Option.some.inj (found.symm.trans behind)
    rfl
  next none =>
    rw [none] at behind
    cases behind

theorem flatMap {α : Type} {items : List α} {write clean : α → List Char}
    (each : ∀ item ∈ items, Shows (write item) (clean item)) : Shows (items.flatMap write) (items.flatMap clean) := by
  induction items with
  | nil => exact nil
  | cons item items ih =>
    obtain ⟨first, others⟩ := List.forall_mem_cons.mp each
    exact first.append (ih others)

end Shows

/-- A text without escape characters. -/
abbrev Plain (text : String) : Prop := Within (· ≠ escape) text

theorem within_replicate {kind : Char → Prop} {character : Char} (own : kind character) (count : Nat) :
    Within kind (String.ofList (List.replicate count character)) := by
  rw [within_ofList]
  intro other member
  rwa [List.eq_of_mem_replicate member]

end Text

open Text (Shows)

namespace Span

private theorem shows {span : Span} (plain : Text.escape ∉ span.text.toList) (colours : Bool) :
    Shows (span.render colours).toList span.text.toList := by
  obtain ⟨text, style⟩ := span
  cases style with
  | none => exact .of_plain plain
  | some style =>
    cases colours with
    | false => exact .of_plain plain
    | true =>
      have opening : Shows ("\x1b[" ++ style.code ++ "m").toList [] := by
        have codes : style.code.toList.all Text.isStyleCode := by cases style <;> decide
        have written : ("\x1b[" ++ style.code ++ "m").toList =
            Text.escape :: '[' :: (style.code.toList ++ ['m']) := by
          rw [String.toList_append, String.toList_append]
          rfl
        rw [written]
        exact .style codes
      have closing : Shows "\x1b[0m".toList [] := @Shows.style ['0'] (by decide)
      have whole := (opening.append (.of_plain plain)).append closing
      rw [List.nil_append, List.append_nil] at whole
      simpa only [render, if_true, String.toList_append] using whole

end Span

theorem CoversWording.ofList {kind : Char → Prop} (wording : CoversWording kind) {letters : List Char}
    (plain : letters.all fun character => decide (InWording character)) : Text.Within kind (String.ofList letters) := by
  rw [Text.within_ofList]
  intro character member
  exact wording character (of_decide_eq_true (List.all_eq_true.mp plain character member))

theorem plain_wording : CoversWording (· ≠ Text.escape) := by
  rintro character inside rfl
  exact absurd inside (by decide)

theorem Toggle.plain_id (toggle : Toggle) : Text.Plain toggle.id := by
  cases toggle <;> exact plain_wording.text (by decide)

namespace Layout

/-- No text of a layout has an escape character. -/
def IsPlain (layout : Layout) : Prop := ∀ line ∈ layout.lines, ∀ span ∈ line, Text.Plain span.text

theorem toList_lineText (colours : Bool) (line : List Span) :
    (lineText colours line).toList = line.flatMap fun span => (span.render colours).toList := by
  rw [lineText, String.toList_join, List.flatMap_map]

theorem shows_line {line : List Span} (plain : ∀ span ∈ line, Text.Plain span.text) (colours : Bool) :
    Shows (lineText colours line).toList (lineText false line).toList := by
  have bare (span : Span) : span.render false = span.text := by
    obtain ⟨text, style⟩ := span
    cases style <;> rfl
  rw [toList_lineText, toList_lineText]
  apply Shows.flatMap
  intro span member
  rw [bare]
  exact span.shows (fun inside => plain span member _ inside rfl) colours

/-- Colours are all that two texts of a layout differ in. -/
theorem unstyled_text {layout : Layout} (plain : layout.IsPlain) :
    Text.unstyled (layout.text true).toList = (layout.text false).toList := by
  obtain ⟨lines⟩ := layout
  have feed : "\n".toList = ['\n'] := rfl
  apply Shows.unstyled_eq
  simp only [text, String.toList_intercalate, List.map_map, feed]
  cases lines with
  | nil => exact .nil
  | cons first others =>
    obtain ⟨here, later⟩ := List.forall_mem_cons.mp plain
    simp only [List.map_cons, Text.intercalate_cons, List.flatMap_map]
    refine (shows_line here true).append (.flatMap fun line member => ?_)
    have ended : Shows ['\n'] ['\n'] := .of_plain (by decide)
    exact ended.append (shows_line (later line member) true)

namespace IsPlain

variable {layout : Layout}

private theorem empty : ({} : Layout).IsPlain := List.forall_mem_nil _

theorem add {line : List Span} (before : layout.IsPlain)
    (plain : ∀ span ∈ line, Text.Plain span.text) : (layout.add line).IsPlain :=
  List.forall_mem_append.mpr ⟨before, List.forall_mem_singleton.mpr plain⟩

theorem blank (before : layout.IsPlain) : layout.blank.IsPlain := before.add (List.forall_mem_nil _)

theorem line {text : String} (before : layout.IsPlain) (plain : Text.Plain text) :
    (layout.line text).IsPlain :=
  before.add (List.forall_mem_singleton.mpr plain)

private theorem title {text : String} (before : layout.IsPlain) (plain : Text.Plain text) :
    (layout.title text).IsPlain :=
  (before.add (List.forall_mem_singleton.mpr plain)).blank

theorem heading {text : String} (before : layout.IsPlain) (plain : Text.Plain text) :
    (layout.heading text).IsPlain :=
  (before.add (List.forall_mem_singleton.mpr plain)).line (Text.within_replicate (by decide) _)

private theorem bullet {text : String} (before : layout.IsPlain) (plain : Text.Plain text) :
    (layout.bullet text).IsPlain :=
  before.line (within_append.mpr ⟨plain_wording.text (by decide), plain⟩)

private theorem pair {key value : String} (before : layout.IsPlain) (left : Text.Plain key)
    (right : Text.Plain value) : (layout.pair key value).IsPlain := by
  refine before.add (List.forall_mem_cons.mpr ⟨?_, List.forall_mem_singleton.mpr ?_⟩)
  · exact within_append.mpr ⟨left, Text.within_replicate (by decide) _⟩
  · exact within_append.mpr ⟨plain_wording.text (by decide), right⟩

theorem foldl {α : Type} {items : List α} {step : Layout → α → Layout} (before : layout.IsPlain)
    (each : ∀ (layout : Layout) (item : α), layout.IsPlain → (step layout item).IsPlain) :
    (items.foldl step layout).IsPlain := by
  induction items generalizing layout with
  | nil => exact before
  | cons item items ih => exact ih (each layout item before)

end IsPlain

def pairLine (key value : String) : List Span := [⟨padded key, some .dim⟩, ⟨" " ++ value, none⟩]

theorem pair_eq (layout : Layout) (key value : String) : layout.pair key value = layout.add (pairLine key value) := rfl

/-- A value starts one column behind the width of keys, or behind its key if that is longer, with blanks before it. -/
structure Aligned (key value : String) (line : List Char) : Prop where
  value : line.drop (max 18 key.length + 1) = value.toList
  key : line.take (max 18 key.length + 1) = key.toList ++ List.replicate (max 18 key.length + 1 - key.length) ' '

private theorem aligned_pairLine (key value : String) :
    Aligned key value (lineText false (pairLine key value)).toList := by
  have line : (lineText false (pairLine key value)).toList =
      key.toList ++ List.replicate (max 18 key.length + 1 - key.length) ' ' ++ value.toList := by
    have blanks : max 18 key.length + 1 - key.length = 18 - key.length + 1 := by omega
    rw [blanks, List.replicate_succ']
    simp [toList_lineText, pairLine, Span.render, padded, keyWidth]
  have width : (key.toList ++ List.replicate (max 18 key.length + 1 - key.length) ' ').length =
      max 18 key.length + 1 := by
    rw [List.length_append, List.length_replicate, String.length_toList]
    omega
  rw [line]
  exact ⟨List.drop_left' width, List.take_left' width⟩

end Layout

namespace Report

open Layout (pairLine)

/-- The summary of a report as keys with their values. -/
def pairs (path : String) (violations : List Violation) (config : Config) : List (String × String) :=
  [("Document", path), ("Violations", toString violations.length)]
    ++ ((Section.all.filter fun part => countIn part violations ≠ 0).map fun part =>
      ("  " ++ part.name, toString (countIn part violations)))
    ++ if config.disabled.isEmpty then []
      else [("Disabled rules", ", ".intercalate (config.disabled.map Toggle.id))]

private theorem lines_counts (violations : List Violation) (parts : List Section) (layout : Layout) :
    (parts.foldl (sectionCount violations) layout).lines = layout.lines ++
      ((parts.filter fun part => countIn part violations ≠ 0).map fun part =>
        pairLine ("  " ++ part.name) (toString (countIn part violations))) := by
  induction parts generalizing layout with
  | nil => exact (List.append_nil _).symm
  | cons part parts ih =>
    rw [List.foldl_cons, ih, sectionCount]
    by_cases none : countIn part violations = 0
    · simp [none]
    · simp [none, Layout.pair_eq, Layout.add]

theorem lines_human (path : String) (violations : List Violation) (config : Config) :
    (human path violations config).lines = ((findings path violations).blank.heading "Summary").lines ++
      (pairs path violations config).map fun pair => pairLine pair.1 pair.2 := by
  unfold human pairs
  dsimp only
  split
  next none => simp [lines_counts, Layout.pair_eq, Layout.add]
  next some => simp [lines_counts, Layout.pair_eq, Layout.add]

variable {path : String} {violations : List Violation}

private theorem violationLine_plain {violation : Violation}
    (inside : ∀ text ∈ violation.texts, Text.Plain text) :
    ∀ span ∈ violationLine violation, Text.Plain span.text := by
  obtain ⟨field, others⟩ := List.forall_mem_cons.mp inside
  obtain ⟨message, place⟩ := List.forall_mem_cons.mp others
  have suffix := (plain_wording.suffix violation.place).mpr fun given here => place given (Option.mem_toList.mpr here)
  simp (disch := decide) only [violationLine, Text.Plain, List.forall_mem_cons, within_append, plain_wording.text,
    plain_wording.part, field, message, suffix, List.not_mem_nil, false_imp_iff, implies_true, and_self]

private theorem findings_plain (around : Text.Plain path)
    (inside : ∀ violation ∈ violations, ∀ text ∈ violation.texts, Text.Plain text) :
    (findings path violations).IsPlain := by
  have accepted : Text.Plain "✓" := List.forall_mem_singleton.mpr (by decide)
  have rejected : Text.Plain "✗" := List.forall_mem_singleton.mpr (by decide)
  have blank : Text.Plain " " := plain_wording.text (by decide)
  unfold findings
  split
  · exact List.forall_mem_singleton.mpr (by simp [accepted, around, blank])
  · refine List.forall_mem_append.mpr ⟨by simp [rejected, around, blank], ?_⟩
    rw [List.forall_mem_map]
    exact fun violation member => violationLine_plain (inside violation member)

private theorem human_plain (around : Text.Plain path)
    (inside : ∀ violation ∈ violations, ∀ text ∈ violation.texts, Text.Plain text)
    (config : Config) : (human path violations config).IsPlain := by
  have ids : Text.Plain (", ".intercalate (config.disabled.map Toggle.id)) := by
    refine (Text.within_intercalate (plain_wording.text (by decide))).mpr (List.forall_mem_map.mpr ?_)
    intro toggle _
    exact toggle.plain_id
  have summary : Text.Plain "Summary" := plain_wording.text (by decide)
  have document : Text.Plain "Document" := plain_wording.text (by decide)
  have total : Text.Plain "Violations" := plain_wording.text (by decide)
  have disabled : Text.Plain "Disabled rules" := plain_wording.text (by decide)
  have headed := (findings_plain around inside).blank.heading summary
  have counted := (headed.pair document around).pair total (plain_wording.number violations.length)
  have each (layout : Layout) (part : Section) (before : layout.IsPlain) :
      (sectionCount violations layout part).IsPlain := by
    have key : Text.Plain ("  " ++ part.name) :=
      within_append.mpr ⟨plain_wording.text (by decide), plain_wording.part part⟩
    unfold sectionCount
    dsimp only
    split
    · exact before
    · exact before.pair key (plain_wording.number _)
  unfold human
  dsimp only
  split
  · exact counted.foldl each
  · exact (counted.foldl each).pair disabled ids

private theorem addPass_plain (config : Config) (layout : Layout) (pass : Pass) (before : layout.IsPlain) :
    (addPass config layout pass).IsPlain := by
  have badge : Text.Plain (if pass.isEnabled config then "" else " [disabled]") := by
    split <;> exact plain_wording.text (by decide)
  have heading : Text.Plain (pass.id ++ " - " ++ pass.name) := by
    cases pass <;> exact plain_wording.text (by decide)
  have description : Text.Plain pass.description := by
    cases pass <;> exact plain_wording.ofList (by decide)
  have toggle (toggle : Toggle) : Text.Plain (toggleText config toggle) := by
    refine within_append.mpr ⟨toggle.plain_id, ?_⟩
    split <;> exact plain_wording.text (by decide)
  have begun := (before.heading (within_append.mpr ⟨heading, badge⟩)).line description
  exact (begun.foldl fun layout item kept => kept.bullet (toggle item)).blank

private theorem passesLayout_plain (validator : Validator) (config : Config) :
    (passesLayout validator config).IsPlain := by
  have title : Text.Plain "Validation Passes" := plain_wording.text (by decide)
  exact (Layout.IsPlain.empty.title title).foldl (addPass_plain config)

/-- Colours never change what a report or a listing says: without its style sequences it is the one without colours.
With them or not, each value stands one column behind its key or the width of keys; the keys and values of a report are
its summary. -/
theorem unstyled_reports (around : Text.Plain path)
    (inside : ∀ violation ∈ violations, ∀ text ∈ violation.texts, Text.Plain text) (config : Config)
    (validator : Validator) :
    Text.unstyled ((human path violations config).text true).toList =
        ((human path violations config).text false).toList ∧
    Text.unstyled ((passesLayout validator config).text true).toList =
        ((passesLayout validator config).text false).toList ∧
    (∀ line ∈ (human path violations config).lines ++ (passesLayout validator config).lines, ∀ key value,
      line = pairLine key value → ∀ colours,
        Layout.Aligned key value (Text.unstyled (Layout.lineText colours line).toList)) ∧
    (human path violations config).lines = ((findings path violations).blank.heading "Summary").lines ++
      (pairs path violations config).map fun pair => pairLine pair.1 pair.2 := by
  have report := human_plain around inside config
  have listing := passesLayout_plain validator config
  refine ⟨Layout.unstyled_text report, Layout.unstyled_text listing, ?_, lines_human path violations config⟩
  rintro line member key value rfl colours
  have plain := List.forall_mem_append.mpr ⟨report, listing⟩ _ member
  rw [(Layout.shows_line plain colours).unstyled_eq]
  exact Layout.aligned_pairLine key value

/-- Texts that are empty are styled as well. -/
theorem blank_unstyled : Text.Plain "api.json" ∧
    (∀ violation ∈ [Violation.ofSegment "Pets", .generic .info "" ""], ∀ text ∈ violation.texts, Text.Plain text) ∧
    Text.unstyled ((human "api.json" [.ofSegment "Pets", .generic .info "" ""] .namesOnly).text true).toList =
      ((human "api.json" [.ofSegment "Pets", .generic .info "" ""] .namesOnly).text false).toList := by
  have around : Text.Plain "api.json" := plain_wording.text (by decide)
  have inside : ∀ violation ∈ [Violation.ofSegment "Pets", .generic .info "" ""],
      ∀ text ∈ violation.texts, Text.Plain text :=
    List.forall_mem_cons.mpr ⟨plain_wording.texts (by decide), List.forall_mem_singleton.mpr
      (plain_wording.texts (by decide))⟩
  exact ⟨around, inside, (unstyled_reports around inside .namesOnly {}).1⟩

end Report

end ApiStyle
