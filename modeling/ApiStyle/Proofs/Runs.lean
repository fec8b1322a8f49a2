import ApiStyle.Proofs.ArgumentFormats
import ApiStyle.Proofs.JsonText
import ApiStyle.Proofs.Markup
import ApiStyle.Proofs.Validation
import ApiStyle.Terminal

/-! Exit codes and outputs of runs. A run comes to exactly one verdict, which is told from what the settings and the
document are read as, without running anything. The exit code tells whether the verdict passes, and the output of a
run for programs is the tree of its verdict. -/

namespace ApiStyle

private theorem Json.not_isReadFrom_of_mark {members : List (String × Json)} {text : String} {mark : Char}
    {others : List Char}
    (begun : text.toList = mark :: others) (known : mark ∈ ['<', '✗', '\x1b']) :
    ¬ (Json.object members).IsReadFrom text := by
  refine Json.not_isReadFrom fun rest opened => ?_
  simp only [List.mem_cons, List.not_mem_nil, or_false] at known
  rw [begun] at opened
  rcases known with rfl | rfl | rfl
  all_goals cases opened

namespace Layout

/-- A layout that begins with some line. -/
def Begins (first : List Span) (layout : Layout) : Prop := ∃ others, layout.lines = first :: others

variable {first : List Span} {layout : Layout}

theorem Begins.add (begins : layout.Begins first) (line : List Span) : (layout.add line).Begins first := by
  obtain ⟨others, same⟩ := begins
  exact ⟨others ++ [line], by rw [Layout.add, same, List.cons_append]⟩

theorem Begins.pair (begins : layout.Begins first) (key value : String) : (layout.pair key value).Begins first :=
  begins.add _

theorem Begins.toList_text (begins : layout.Begins first) (colours : Bool) :
    ∃ others, (layout.text colours).toList = (lineText colours first).toList ++ others := by
  obtain ⟨others, same⟩ := begins
  rw [Layout.text, same, List.map_cons]
  exact ⟨_, Text.toList_lines _ _⟩

end Layout

namespace Report

private theorem begins_counts {first : List Span} {layout : Layout} (begins : layout.Begins first)
    (violations : List Violation) (parts : List Section) :
    (parts.foldl (sectionCount violations) layout).Begins first := by
  induction parts generalizing layout with
  | nil => exact begins
  | cons part parts ih =>
    apply ih
    unfold sectionCount
    dsimp only
    split
    · exact begins
    · exact begins.pair _ _

private theorem begins_human (path : String) {violations : List Violation} (present : violations ≠ [])
    (config : Config) :
    (human path violations config).Begins [⟨"✗", some .red⟩, ⟨" ", none⟩, ⟨path, some .bold⟩] := by
  have verdict : (findings path violations).Begins [⟨"✗", some .red⟩, ⟨" ", none⟩, ⟨path, some .bold⟩] := by
    unfold findings
    rw [if_neg (by simpa using present)]
    exact ⟨_, rfl⟩
  -- Whatever follows the verdict is added behind it.
  have heading := ((verdict.add []).add [⟨"Summary", some .bold⟩]).add
    [⟨String.ofList (List.replicate (max "Summary".utf8ByteSize 3) '-'), none⟩]
  have totals := (heading.pair "Document" path).pair "Violations" (toString violations.length)
  have counts := begins_counts totals violations Section.all
  unfold human
  dsimp only
  split
  · exact counts
  · exact counts.pair _ _

private theorem mark_human (path : String) {violations : List Violation} (present : violations ≠ []) (config : Config)
    (colours : Bool) : ∃ mark others, ((human path violations config).text colours).toList = mark :: others ∧
      mark ∈ ['<', '✗', '\x1b'] := by
  obtain ⟨others, same⟩ := (begins_human path present config).toList_text colours
  cases colours with
  | false =>
    have shown : Layout.lineText false [⟨"✗", some .red⟩, ⟨" ", none⟩, ⟨path, some .bold⟩] = "✗ " ++ path := by
      simp [Layout.lineText, Span.render, String.join]
    rw [shown, String.toList_append] at same
    exact ⟨'✗', _, same, by decide⟩
  | true =>
    have shown : Layout.lineText true [⟨"✗", some .red⟩, ⟨" ", none⟩, ⟨path, some .bold⟩] =
        "\x1b[31m✗\x1b[0m " ++ ("\x1b[1m" ++ path ++ "\x1b[0m") := by
      simp [Layout.lineText, Span.render, Style.code, String.join]
    rw [shown, String.toList_append] at same
    exact ⟨'\x1b', _, same, by decide⟩

private theorem mark_junit (path : String) (violations : List Violation) :
    ∃ others, (Junit.report path violations).toList = '<' :: others :=
  ⟨_, Text.toList_lines _ _⟩

end Report

/-- What a run comes to: a failure with its code, a list of the passes, or the violations of a document. -/
inductive Verdict where
  | failed (failure : Failure) (code : String)
  | listed (format : Option Format) (config : Config)
  | checked (input : Path) (format : Format) (config : Config) (violations : List Violation)

namespace Verdict

/-- What programs are told: the report if there is one, else the failure. -/
def tree : Verdict → Json
  | failed failure code =>
    .object [("code", .string code), ("error", .bool true), ("message", .string failure.message)]
  | listed _ config => Report.passesJson {} config
  | checked input format _ violations =>
    if format = .sarif then Report.Sarif.report {} input.text violations else Report.json input.text violations

def listText (colours : Bool) (format : Format) (config : Config) : String :=
  if format = .json then (Report.passesJson {} config).prettyText else (Report.passesLayout {} config).text colours

/-- The report in the format that was asked for. -/
def report? (colours : Bool) : Verdict → Option String
  | failed .. => none
  | listed format config => some (listText colours (format.getD .human) config)
  | checked input format config violations => some (Invocation.reportText colours format input.text violations config)

/-- There is nothing to complain about. -/
def Passes : Verdict → Prop
  | failed .. => False
  | listed .. => True
  | checked _ _ _ violations => violations = []

end Verdict

/-- A text for people or for other tools is wanted, whoever reads it. -/
def Request.WantsText : Request → Prop
  | validate _ format _ => format = .junit
  | rules format => format = some .human

namespace Invocation

variable (surroundings : Surroundings) (invocation : Invocation)

/-- The settings that a run starts with. -/
def settings : Except Failure Settings :=
  project surroundings >>= Settings.load surroundings invocation.config

/-- What the run of an invocation comes to. -/
inductive ComesTo : Verdict → Prop
  | lost {reason} : surroundings.directory = .error reason → ComesTo (.failed (.unreadable (.refused reason)) "io")
  | noConfig {path} : invocation.settings surroundings = .error (.noConfig path) →
      ComesTo (.failed (.noConfig path) "not_found")
  | badConfig {problem} : invocation.settings surroundings = .error (.badConfig problem) →
      ComesTo (.failed (.badConfig problem) "config")
  | listed {settings format} : invocation.settings surroundings = .ok settings →
      invocation.request = .rules format → ComesTo (.listed format settings.config)
  | noDocument {settings input format overrides} : invocation.settings surroundings = .ok settings →
      invocation.request = .validate input format overrides → surroundings.look input = none →
      ComesTo (.failed (.noDocument input) "not_found")
  | unreadable {settings input format overrides reason} : invocation.settings surroundings = .ok settings →
      invocation.request = .validate input format overrides → surroundings.look input = some (.error reason) →
      ComesTo (.failed (.unreadable reason) "io")
  | badDocument {settings input format overrides text fault} : invocation.settings surroundings = .ok settings →
      invocation.request = .validate input format overrides → surroundings.look input = some (.ok text) →
      (if Document.isJson input then Document.ofJson text else Document.ofYaml text) = .error fault →
      ComesTo (.failed (.badDocument (some input) fault) "parse")
  | noInfo {settings input format overrides document} : invocation.settings surroundings = .ok settings →
      invocation.request = .validate input format overrides → Document.load surroundings input = .ok document →
      document.info = none → ComesTo (.failed .noInfo "invalid_document")
  | checked {settings input format overrides document info violations} :
      invocation.settings surroundings = .ok settings → invocation.request = .validate input format overrides →
      Document.load surroundings input = .ok document → document.info = some info →
      ({} : Validator).validate? document (overrides.apply settings.config) = some violations →
      ComesTo (.checked input format (overrides.apply settings.config) violations)

/-- The configuration loads, and a document to be checked loads, has an info object and yields no violation. -/
def Succeeds : Prop :=
  ∃ settings, invocation.settings surroundings = .ok settings ∧
    ∀ input format overrides, invocation.request = .validate input format overrides →
      ∃ document info, Document.load surroundings input = .ok document ∧ document.info = some info ∧
        ({} : Validator).validate? document (overrides.apply settings.config) = some []

variable {surroundings invocation}

theorem project_eq_error {failure : Failure} : project surroundings = .error failure ↔
    ∃ reason, surroundings.directory = .error reason ∧ failure = .unreadable (.refused reason) := by
  unfold project
  cases surroundings.directory with
  | error reason =>
    constructor
    · intro failed
      exact ⟨reason, rfl, (Except.error.inj failed).symm⟩
    · rintro ⟨_, ⟨⟩, rfl⟩
      rfl
  | ok start =>
    constructor
    · rintro ⟨⟩
    · rintro ⟨_, ⟨⟩, _⟩

theorem settings_of_lost {reason : String} (lost : surroundings.directory = .error reason) :
    invocation.settings surroundings = .error (.unreadable (.refused reason)) :=
  bind_eq_error.mpr (Or.inl (project_eq_error.mpr ⟨reason, lost, rfl⟩))

theorem ComesTo.unique {one other : Verdict} (first : invocation.ComesTo surroundings one)
    (second : invocation.ComesTo surroundings other) : one = other := by
  cases found : surroundings.directory with
  | error reason =>
    have failed := @settings_of_lost _ invocation _ found
    cases first <;> cases second <;> simp_all
  | ok start =>
    -- Two different ways disagree about the settings, the request, the file or what is decoded from it.
    cases first <;> cases second <;> simp_all [Document.load, Except.mapError]

private theorem failure_of_load {explicit : Option Path} {project : Path} {failure : Failure}
    (failed : Settings.load surroundings explicit project = .error failure) :
    (∃ path, failure = .noConfig path) ∨ ∃ problem, failure = .badConfig problem := by
  rcases bind_eq_error.mp failed with files | ⟨settings, _, overriding⟩
  · unfold Settings.ofFiles at files
    split at files
    · rcases bind_eq_error.mp files with reading | ⟨patch, _, adding⟩
      · obtain ⟨problem, _, rfl⟩ := mapError_eq_error.mp reading
        exact Or.inr ⟨problem, rfl⟩
      · cases patch with
        | none =>
          obtain rfl := Except.error.inj adding
          exact Or.inl ⟨_, rfl⟩
        | some patch =>
          obtain ⟨problem, _, rfl⟩ := mapError_eq_error.mp adding
          exact Or.inr ⟨problem, rfl⟩
    · obtain ⟨problem, _, rfl⟩ := mapError_eq_error.mp files
      exact Or.inr ⟨problem, rfl⟩
  · rcases bind_eq_error.mp overriding with overriding | ⟨config, _, impossible⟩
    · obtain ⟨setting, _, rfl⟩ := mapError_eq_error.mp overriding
      exact Or.inr ⟨_, rfl⟩
    · cases impossible

private theorem exists_comesTo (surroundings : Surroundings) (invocation : Invocation) :
    ∃ verdict, invocation.ComesTo surroundings verdict := by
  cases loaded : invocation.settings surroundings with
  | error failure =>
    rcases bind_eq_error.mp loaded with failed | ⟨root, _, failed⟩
    · obtain ⟨reason, lost, rfl⟩ := project_eq_error.mp failed
      exact ⟨_, .lost lost⟩
    · rcases failure_of_load failed with ⟨path, rfl⟩ | ⟨problem, rfl⟩
      · exact ⟨_, .noConfig loaded⟩
      · exact ⟨_, .badConfig loaded⟩
  | ok settings =>
    cases asked : invocation.request with
    | rules format => exact ⟨_, .listed loaded asked⟩
    | validate input format overrides =>
      cases found : surroundings.look input with
      | none => exact ⟨_, .noDocument loaded asked found⟩
      | some content =>
        cases content with
        | error reason => exact ⟨_, .unreadable loaded asked found⟩
        | ok text =>
          cases decoded : (if Document.isJson input then Document.ofJson text else Document.ofYaml text) with
          | error fault => exact ⟨_, .badDocument loaded asked found decoded⟩
          | ok document =>
            have read : Document.load surroundings input = .ok document := by
              rw [Document.load, found]
              exact mapError_eq_ok.mpr decoded
            cases present : document.info with
            | none => exact ⟨_, .noInfo loaded asked read present⟩
            | some info => exact ⟨_, .checked loaded asked read present (Validator.validate?_of_info present _ _)⟩

theorem succeeds_iff {verdict : Verdict} (comes : invocation.ComesTo surroundings verdict) :
    invocation.Succeeds surroundings ↔ verdict.Passes := by
  constructor
  · rintro ⟨settings, loaded, complies⟩
    cases asked : invocation.request with
    | rules format =>
      rw [comes.unique (.listed loaded asked)]
      trivial
    | validate input format overrides =>
      obtain ⟨document, info, read, present, validated⟩ := complies input format overrides asked
      rw [comes.unique (.checked loaded asked read present validated)]
      exact rfl
  · intro passes
    cases comes with
    | listed loaded asked =>
      refine ⟨_, loaded, fun input format overrides other => ?_⟩
      rw [asked] at other
      cases other
    | checked loaded asked read present validated =>
      refine ⟨_, loaded, fun input format overrides same => ?_⟩
      rw [asked] at same
      cases same
      exact ⟨_, _, read, present, passes ▸ validated⟩
    | _ => cases passes

/-- What a verdict is told as. -/
def outcomeOf (colours robot : Bool) : Verdict → Outcome
  | .failed failure _ => .failed failure
  | .listed format config =>
    { report := some (Verdict.listText colours (format.getD (if robot then .json else .human)) config) }
  | .checked input format config violations =>
    { report := some (reportText colours (reportFormat robot format) input.text violations config)
      failure := if violations.isEmpty then none else some (.violated violations.length) }

section Layers

variable {config : Config} {input : Path} {document : Document} {violations : List Violation} {failure : Failure}

private theorem load_of_missing (missing : surroundings.look input = none) :
    Document.load surroundings input = .error (.noDocument input) := by
  rw [Document.load, missing]

private theorem load_of_unreadable {reason : Unreadable} (found : surroundings.look input = some (.error reason)) :
    Document.load surroundings input = .error (.unreadable reason) := by
  rw [Document.load, found]

private theorem load_of_malformed {text : String} {fault : TextFault}
    (found : surroundings.look input = some (.ok text))
    (wrong : (if Document.isJson input then Document.ofJson text else Document.ofYaml text) = .error fault) :
    Document.load surroundings input = .error (.badDocument (some input) fault) := by
  rw [Document.load, found]
  exact mapError_eq_error.mpr ⟨fault, wrong, rfl⟩

private theorem validate_of_unloaded (unloaded : Document.load surroundings input = .error failure) :
    validate surroundings config input = .error failure := bind_eq_error.mpr (Or.inl unloaded)

private theorem validate_of_noInfo (read : Document.load surroundings input = .ok document)
    (absent : document.info = none) :
    validate surroundings config input = .error .noInfo := by
  rw [validate, read]
  refine bind_eq_error.mpr (Or.inr ⟨document, rfl, ?_⟩)
  rw [Validator.validate?_eq, absent]
  rfl

private theorem validate_of_checked (read : Document.load surroundings input = .ok document)
    (validated : ({} : Validator).validate? document config = some violations) :
    validate surroundings config input = .ok violations := by
  rw [validate, read]
  refine bind_eq_ok.mpr ⟨document, rfl, ?_⟩
  rw [validated]
  rfl

private theorem outcome_of_error {overrides : Overrides}
    (failed : validate surroundings (overrides.apply config) input = .error failure) (colours robot : Bool)
    (format : Format) :
    outcome surroundings colours robot config (.validate input format overrides) = .failed failure := by
  unfold outcome
  dsimp only
  rw [failed]

private theorem outcome_of_ok {overrides : Overrides}
    (validated : validate surroundings (overrides.apply config) input = .ok violations) (colours robot : Bool)
    (format : Format) : outcome surroundings colours robot config (.validate input format overrides) =
      outcomeOf colours robot (.checked input format (overrides.apply config) violations) := by
  unfold outcome
  dsimp only
  rw [validated]
  rfl

private theorem outcome_rules (colours robot : Bool) (config : Config) (format : Option Format) :
    outcome surroundings colours robot config (.rules format) = outcomeOf colours robot (.listed format config) := by
  unfold outcome outcomeOf Verdict.listText
  dsimp only
  by_cases data : format.getD (if robot then .json else .human) = .json
  · rw [if_pos data, if_pos data, Outcome.ok]
  · rw [if_neg data, if_neg data, Outcome.ok]

private theorem run_of_error (failed : invocation.settings surroundings = .error failure) (colours : Bool) :
    invocation.run surroundings colours = .failed failure := by
  rw [settings] at failed
  rw [run, failed]

private theorem run_of_ok {settings : Settings} (loaded : invocation.settings surroundings = .ok settings)
    (colours : Bool) :
    invocation.run surroundings colours =
      outcome surroundings colours invocation.robot settings.config invocation.request := by
  rw [Invocation.settings] at loaded
  rw [run, loaded]

end Layers

theorem run_eq {verdict : Verdict} (comes : invocation.ComesTo surroundings verdict) (colours : Bool) :
    invocation.run surroundings colours = outcomeOf colours invocation.robot verdict := by
  cases comes with
  | lost lost => exact run_of_error (settings_of_lost lost) colours
  | noConfig loaded | badConfig loaded => exact run_of_error loaded colours
  | listed loaded asked => rw [run_of_ok loaded, asked, outcome_rules]
  | noDocument loaded asked missing =>
    rw [run_of_ok loaded, asked, outcome_of_error (validate_of_unloaded (load_of_missing missing)), outcomeOf]
  | unreadable loaded asked found =>
    rw [run_of_ok loaded, asked, outcome_of_error (validate_of_unloaded (load_of_unreadable found)), outcomeOf]
  | badDocument loaded asked found wrong =>
    rw [run_of_ok loaded, asked, outcome_of_error (validate_of_unloaded (load_of_malformed found wrong)), outcomeOf]
  | noInfo loaded asked read absent =>
    rw [run_of_ok loaded, asked, outcome_of_error (validate_of_noInfo read absent), outcomeOf]
  | checked loaded asked read present validated =>
    rw [run_of_ok loaded, asked, outcome_of_ok (validate_of_checked read validated)]

private theorem code_of_comesTo {failure : Failure} {code : String}
    (comes : invocation.ComesTo surroundings (.failed failure code)) :
    failure.code = code ∧ failure.isViolated = false := by
  cases comes <;> exact ⟨rfl, rfl⟩

private theorem exit_of_outcome (colours robot : Bool) (verdict : Verdict) :
    ((outcomeOf colours robot verdict).screen robot).exit = 0 ∧ verdict.Passes ∨
      ((outcomeOf colours robot verdict).screen robot).exit = 1 ∧ ¬ verdict.Passes := by
  have failing (failure : Failure) : (failure.screen robot).exit = 1 := by
    unfold Failure.screen
    split <;> rfl
  cases verdict with
  | failed failure code => exact Or.inr ⟨failing failure, id⟩
  | listed format config => exact Or.inl ⟨rfl, trivial⟩
  | checked input format config violations =>
    cases violations with
    | nil => exact Or.inl ⟨rfl, rfl⟩
    | cons violation violations => exact Or.inr ⟨failing _, List.cons_ne_nil _ _⟩

theorem isReadFrom_output {verdict : Verdict} (comes : invocation.ComesTo surroundings verdict) (colours : Bool)
    (data : ¬ invocation.request.WantsText)
    (offered : ∀ format, invocation.request = .rules (some format) → format = .human ∨ format = .json) :
    verdict.tree.IsReadFrom ((outcomeOf colours true verdict).screen true).output := by
  have blank : Json.Blank "\n".toList := List.forall_mem_singleton.mpr rfl
  cases verdict with
  | failed failure code =>
    obtain ⟨rfl, unreported⟩ := code_of_comesTo comes
    have shown : ((outcomeOf colours true (.failed failure failure.code)).screen true).output =
        failure.toJson.compactText ++ "\n" := by
      change "" ++ (if failure.isViolated then "" else failure.toJson.compactText ++ "\n") = _
      rw [unreported, if_neg (by decide), String.empty_append]
    rw [shown]
    exact Json.isReadFrom_compactText _ blank
  | listed format config =>
    have asked : invocation.request = .rules format := by
      cases comes
      assumption
    have wanted : format.getD .json = .json := by
      rw [asked] at data
      cases format with
      | none => rfl
      | some format =>
        rcases offered format asked with rfl | rfl
        · exact absurd rfl data
        · rfl
    have shown : ((outcomeOf colours true (.listed format config)).screen true).output =
        Verdict.listText colours (format.getD .json) config ++ "\n" := rfl
    rw [shown, Verdict.listText, if_pos wanted]
    exact Json.isReadFrom_prettyText _ blank
  | checked input format config violations =>
    have printed : reportText colours (reportFormat true format) input.text violations config =
        (Verdict.checked input format config violations).tree.prettyText := by
      have asked : ∃ overrides, invocation.request = .validate input format overrides := by
        cases comes
        exact ⟨_, by assumption⟩
      obtain ⟨overrides, asked⟩ := asked
      rw [asked] at data
      -- The format for people is switched to JSON here, so only the text for other tools is left out.
      cases format with
      | human | json | sarif => rfl
      | junit => exact absurd rfl data
    -- The number of violations is a failure too, which adds nothing to the output.
    have shown : ((outcomeOf colours true (.checked input format config violations)).screen true).output =
        reportText colours (reportFormat true format) input.text violations config ++ "\n" := by
      cases violations with
      | nil => rfl
      | cons violation violations => exact String.append_empty
    rw [shown, printed]
    exact Json.isReadFrom_prettyText _ blank

private theorem output_for_people (colours : Bool) (verdict : Verdict) :
    ((outcomeOf colours false verdict).screen false).output =
      ((verdict.report? colours).map (· ++ "\n")).getD "" := by
  cases verdict with
  | failed failure code => rfl
  | listed format config => rfl
  | checked input format config violations =>
    cases violations with
    | nil => rfl
    | cons violation violations => exact String.append_empty

theorem not_failure_of_first {key text : String} {value : Json} {members : List (String × Json)}
    (told : (Json.object ((key, value) :: members)).IsReadFrom text) (other : key ≠ "code") (failure : Failure) :
    ¬ failure.toJson.IsReadFrom text := by
  intro read
  have same := read.unique told
  exact other (Prod.mk.inj (List.cons.inj (Json.object.inj same)).1).1.symm

theorem not_failure_for_people {verdict : Verdict} (fails : ¬ verdict.Passes) (colours : Bool) (failure : Failure) :
    ¬ failure.toJson.IsReadFrom (((verdict.report? colours).map (· ++ "\n")).getD "") := by
  have blank : Json.Blank "\n".toList := List.forall_mem_singleton.mpr rfl
  cases verdict with
  | failed other code => exact Json.not_isReadFrom (by rintro _ ⟨⟩)
  | listed format config => exact absurd trivial fails
  | checked input format config violations =>
    intro told
    change failure.toJson.IsReadFrom (reportText colours format input.text violations config ++ "\n") at told
    cases format with
    | json =>
      have report := Json.isReadFrom_prettyText (Report.json input.text violations) blank
      exact not_failure_of_first report (by decide) failure told
    | sarif =>
      have report := Json.isReadFrom_prettyText (Report.Sarif.report {} input.text violations) blank
      exact not_failure_of_first report (by decide) failure told
    | junit =>
      obtain ⟨others, begun⟩ := Report.mark_junit input.text violations
      have whole : (Report.Junit.report input.text violations ++ "\n").toList = '<' :: (others ++ "\n".toList) := by
        rw [String.toList_append, begun, List.cons_append]
      exact Json.not_isReadFrom_of_mark whole (by decide) told
    | human =>
      obtain ⟨mark, others, begun, known⟩ := Report.mark_human input.text fails config colours
      have whole : ((Report.human input.text violations config).text colours ++ "\n").toList =
          mark :: (others ++ "\n".toList) := by
        rw [String.toList_append, begun, List.cons_append]
      exact Json.not_isReadFrom_of_mark whole known told

/-- For every run whose arguments are understood, the exit code tells whether it succeeds. For programs the output is
one value, the report or else the failure with its code, unless a text was asked for; for people it is the report or
nothing, and never the failure of a run that fails. -/
theorem answer_consistent {surroundings : Surroundings} {arguments : List String} {invocation : Invocation}
    (parsed : ofArguments (surroundings.environment Given.robotVariable) arguments = .ok invocation)
    (onTerminal : Bool) :
    ((Terminal.answer surroundings onTerminal arguments).exit = 0 ∧ invocation.Succeeds surroundings ∨
      (Terminal.answer surroundings onTerminal arguments).exit = 1 ∧ ¬ invocation.Succeeds surroundings) ∧
    ∃! verdict, invocation.ComesTo surroundings verdict ∧
      (invocation.robot = true → ¬ invocation.request.WantsText → ∀ tree : Json,
        tree.IsReadFrom (Terminal.answer surroundings onTerminal arguments).output ↔ tree = verdict.tree) ∧
      (invocation.robot = false → ¬ invocation.Succeeds surroundings →
        (Terminal.answer surroundings onTerminal arguments).output =
          ((verdict.report? (Terminal.hasColours surroundings.environment onTerminal)).map (· ++ "\n")).getD "" ∧
        ∀ failure : Failure,
          ¬ failure.toJson.IsReadFrom (Terminal.answer surroundings onTerminal arguments).output) := by
  obtain ⟨verdict, comes⟩ := exists_comesTo surroundings invocation
  have answered : Terminal.answer surroundings onTerminal arguments =
      (outcomeOf (Terminal.hasColours surroundings.environment onTerminal) invocation.robot verdict).screen
        invocation.robot := by
    rw [Terminal.answer, parsed]
    dsimp only
    rw [run_eq comes]
  rw [answered, succeeds_iff comes]
  refine ⟨exit_of_outcome _ _ verdict, verdict, ⟨comes, ?_, ?_⟩, fun other ends => ends.1.unique comes⟩
  · intro robot data tree
    have told : verdict.tree.IsReadFrom _ :=
      isReadFrom_output comes (Terminal.hasColours surroundings.environment onTerminal) data
        fun format asked => format_of_rules parsed asked
    rw [robot]
    exact ⟨fun read => read.unique told, fun same => same ▸ told⟩
  · intro people fails
    rw [people, output_for_people]
    exact ⟨rfl, not_failure_for_people fails _⟩

/-- Programs are told of a document that is missing. -/
theorem missing_document_told :
    let nothing : Surroundings := { look := fun _ => none, environment := fun _ => none }
    let arguments := ["--robot", "validate", "api.json"]
    ofArguments none arguments = .ok ⟨.validate ⟨"api.json"⟩ .human {}, true, none⟩ ∧
    (Terminal.answer nothing false arguments).exit = 1 ∧
    ∀ tree : Json, tree.IsReadFrom (Terminal.answer nothing false arguments).output ↔
      tree = .object [("code", .string "not_found"), ("error", .bool true),
        ("message", .string "not found: specification file api.json")] := by
  intro nothing arguments
  have parsed : ofArguments none arguments = .ok ⟨.validate ⟨"api.json"⟩ .human {}, true, none⟩ := by decide
  obtain ⟨ending, verdict, ⟨comes, told, -⟩, -⟩ := @answer_consistent nothing arguments _ parsed false
  have loaded : settings nothing ⟨.validate ⟨"api.json"⟩ .human {}, true, none⟩ = .ok {} := by rfl
  have missing := comes.unique (.noDocument loaded rfl rfl)
  refine ⟨parsed, ?_, ?_⟩
  · rcases ending with ⟨-, succeeds⟩ | ⟨failing, -⟩
    · have passes := (succeeds_iff comes).mp succeeds
      rw [missing] at passes
      exact passes.elim
    · exact failing
  · rw [missing] at told
    exact told rfl (by rintro ⟨⟩)

end Invocation

end ApiStyle
