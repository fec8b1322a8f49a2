import ApiStyle.Proofs.Ownership
import ApiStyle.Proofs.RoundTrip
import ApiStyle.Proofs.Tables
import ApiStyle.Run
import Mathlib.Data.List.Forall2

/-! No violation says which pass made it: reports tell that from the record alone, far from where it was logged.
The main statement is that they tell it right. Whatever a pass logs is attributed to that pass, so each result of a
report for code scanners stands under exactly one of the rules that the report lists. -/

namespace ApiStyle

namespace Pass

theorem mem_all (pass : Pass) : pass ∈ all := by
  cases pass <;> decide

theorem nodup_all : all.Nodup := by decide

theorem eq_of_toggle {first second : Pass} {toggle : Toggle} (shapes : toggle ∈ first.toggles)
    (shapesToo : toggle ∈ second.toggles) : first = second := by
  have apart : ∀ first ∈ all, ∀ second ∈ all, ∀ toggle ∈ first.toggles, toggle ∈ second.toggles → first = second := by
    decide
  exact apart first first.mem_all second second.mem_all toggle shapes shapesToo

theorem id_injective {first second : Pass} (same : first.id = second.id) : first = second := by
  have apart : ∀ first ∈ all, ∀ second ∈ all, first.id = second.id → first = second := by decide
  exact apart first first.mem_all second second.mem_all same

private theorem effective_subset (pass : Pass) {toggle : Toggle} (decides : toggle ∈ pass.effective) :
    toggle ∈ pass.toggles := by
  have kept : ∀ pass ∈ all, ∀ toggle ∈ pass.effective, toggle ∈ pass.toggles := by decide
  exact kept pass pass.mem_all toggle decides

end Pass

theorem Violation.owner_shapes_pass {violation : Violation} {toggle : Toggle}
    (owned : violation.owner? = some toggle) : toggle ∈ violation.pass.toggles := by
  cases violation with
  | generic part field message =>
    have listed := Table.mem_of_lookup owned
    simp only [List.mem_cons, Prod.mk.injEq, List.not_mem_nil, or_false] at listed
    rcases listed with ⟨rfl, rfl⟩ | ⟨rfl, rfl⟩ | ⟨rfl, rfl⟩ | ⟨rfl, rfl⟩
    all_goals simp [pass, Pass.toggles]
  | operation field message path method =>
    have listed := Table.mem_of_lookup owned
    simp only [List.mem_cons, Prod.mk.injEq, List.not_mem_nil, or_false] at listed
    rcases listed with ⟨rfl, rfl⟩ | ⟨rfl, rfl⟩ | ⟨rfl, rfl⟩ | ⟨rfl, rfl⟩
    all_goals simp [pass, Pass.toggles]
  | model field message schema property =>
    obtain rfl := Option.some.inj owned
    simp [pass, Pass.toggles]
  | naming subject kind issue place =>
    cases issue with
    | notUnique =>
      obtain rfl := Option.some.inj owned
      simp [pass, Pass.toggles]
    | convention expected =>
      obtain rfl := Option.some.inj owned
      simp [pass, Pass.toggles]

private theorem Info.owner_of_check {config : Config} {info : Info} {violation : Violation}
    (member : violation ∈ info.check config) :
    ∃ toggle ∈ Pass.info.effective, violation.owner? = some toggle := by
  simp only [check, List.mem_append, or_assoc] at member
  rcases member with license | description | contact
  · exact ⟨.infoLicense, by decide, owned_if owner_of_checkLicense violation license⟩
  · exact ⟨.infoDescription, by decide, owned_if owner_of_checkDescription violation description⟩
  · exact ⟨.infoContact, by decide, owned_if owner_of_checkContact violation contact⟩

namespace Endpoint

private theorem owner_of_check {config : Config} {seen : List String} {endpoint : Endpoint} {violation : Violation}
    (member : violation ∈ endpoint.check config seen) :
    ∃ toggle ∈ Pass.operations.effective, violation.owner? = some toggle := by
  simp only [check_eq, List.mem_append, or_assoc] at member
  rcases member with operationId | unique | description | summary | tags
  · exact ⟨.operationId, by decide, owned_if (owned_if (owned_singleton rfl)) violation operationId⟩
  · exact ⟨.operationIdUnique, by decide, owned_if owner_of_repeated violation unique⟩
  · exact ⟨.operationDescription, by decide, owned_if (owned_unless rfl) violation description⟩
  · exact ⟨.operationSummary, by decide, owned_if (owned_unless rfl) violation summary⟩
  · exact ⟨.operationTag, by decide, owned_if (owned_if (owned_singleton rfl)) violation tags⟩

private theorem owner_of_checkFrom {config : Config} {seen : List String} {endpoints : List Endpoint}
    {violation : Violation} (member : violation ∈ checkFrom config seen endpoints) :
    ∃ toggle ∈ Pass.operations.effective, violation.owner? = some toggle := by
  induction endpoints generalizing seen with
  | nil => cases member
  | cons endpoint rest ih =>
    rcases List.mem_append.mp member with here | later
    · exact owner_of_check here
    · exact ih later

end Endpoint

namespace Pass

private theorem owner_of_findings {pass : Pass} {subject : Subject} {violation : Violation}
    (found : violation ∈ pass.findings subject) : ∃ toggle ∈ pass.effective, violation.owner? = some toggle := by
  cases pass with
  | info => exact Info.owner_of_check found
  | servers => exact ⟨.serverInfo, by decide, owner_of_checkServers violation found⟩
  | operations => exact Endpoint.owner_of_checkFrom found
  | models => exact ⟨.propertyExample, by decide, owner_of_checkModels violation found⟩
  | naming => exact ⟨.naming, by decide, owner_of_checkNames violation found⟩

theorem pass_of_findings {pass : Pass} {subject : Subject} {violation : Violation}
    (found : violation ∈ pass.findings subject) : violation.pass = pass := by
  obtain ⟨toggle, decides, owned⟩ := owner_of_findings found
  have told : toggle ∈ violation.pass.toggles := Violation.owner_shapes_pass owned
  have shapes : toggle ∈ pass.toggles := effective_subset pass decides
  exact eq_of_toggle told shapes

theorem pass_of_contribution {pass : Pass} {subject : Subject} {violation : Violation}
    (added : violation ∈ pass.contribution subject) : violation.pass = pass := by
  unfold contribution at added
  split at added
  · exact pass_of_findings added
  · cases added

end Pass

namespace Report.Sarif

/-- The items of the array under a key. -/
def itemsAt (key : String) (json : Json) : List Json :=
  match json.member? key with
  | some (.array items) => items
  | _ => []

def textAt (key : String) (json : Json) : Option String :=
  match json.member? key with
  | some (.string text) => some text
  | _ => none

def results (report : Json) : List Json := (itemsAt "runs" report).flatMap (itemsAt "results")

/-- The rules listed by the tools that made the runs of a report. -/
def rules (report : Json) : List Json :=
  (itemsAt "runs" report).flatMap fun run =>
    ((run.member? "tool").bind (·.member? "driver")).toList.flatMap (itemsAt "rules")

/-- A result has the line of a violation as its message and stands under the id of its pass. -/
structure Tells (result : Json) (violation : Violation) : Prop where
  rule : textAt "ruleId" result = some violation.pass.id
  message : (result.member? "message").bind (textAt "text") = some violation.line

/-- A report tells of each violation by one result, in order, and each result stands under one of the rules. -/
structure Accounts (report : Json) (violations : List Violation) : Prop where
  told : List.Forall₂ Tells (results report) violations
  ruled : ∀ result ∈ results report, ∃! rule, rule ∈ rules report ∧ textAt "id" rule = textAt "ruleId" result

private theorem results_report (validator : Validator) (path : String) (violations : List Violation) :
    results (report validator path violations) = violations.map (result path) := by
  simp [results, report, itemsAt, Json.member?, List.lookup_cons]

theorem rules_report (validator : Validator) (path : String) (violations : List Violation) :
    rules (report validator path violations) = validator.passes.map rule := by
  simp [rules, report, itemsAt, Json.member?, List.lookup_cons]

theorem textAt_rule (pass : Pass) : textAt "id" (rule pass) = some pass.id := by
  simp [textAt, rule, Json.member?]

theorem textAt_result (path : String) (violation : Violation) :
    textAt "ruleId" (result path violation) = some violation.pass.id := by
  simp [textAt, result, Json.member?]

private theorem tells_result (path : String) (violation : Violation) : Tells (result path violation) violation := by
  constructor
  · exact textAt_result path violation
  · simp [textAt, result, message, Json.member?, List.lookup_cons]

/-- Whatever list of passes a validator has, a report of its findings accounts for them. -/
theorem accounts_report {validator : Validator} {violations : List Violation}
    (attributed : ∀ violation ∈ violations, violation.pass ∈ validator.passes) (path : String) :
    Accounts (report validator path violations) violations := by
  constructor
  · rw [results_report, List.forall₂_map_left_iff, List.forall₂_same]
    intro violation _
    exact tells_result path violation
  · intro found member
    rw [results_report] at member
    obtain ⟨violation, reported, rfl⟩ := List.mem_map.mp member
    rw [rules_report, textAt_result]
    refine ⟨rule violation.pass, ⟨List.mem_map_of_mem (attributed violation reported), textAt_rule _⟩, ?_⟩
    rintro listed ⟨member, named⟩
    obtain ⟨pass, _, rfl⟩ := List.mem_map.mp member
    rw [textAt_rule] at named
    have same : pass = violation.pass := Pass.id_injective (Option.some.inj named)
    rw [same]

theorem ids_of_rules (validator : Validator) (path : String) (violations : List Violation) :
    (rules (report validator path violations)).map (textAt "id") = validator.passes.map fun pass => some pass.id := by
  rw [rules_report, List.map_map]
  exact List.map_congr_left fun pass _ => textAt_rule pass

end Report.Sarif

namespace Validator

theorem validate?_eq_some {validator : Validator} {document : Document} {config : Config}
    {violations : List Violation} (validated : validator.validate? document config = some violations) :
    ∃ info, document.info = some info ∧
      violations = validator.passes.flatMap (·.contribution ⟨document, info, config⟩) := by
  rw [validate?_eq] at validated
  obtain ⟨info, present, same⟩ := Option.map_eq_some_iff.mp validated
  exact ⟨info, present, same.symm⟩

private theorem pass_of_violation {validator : Validator} {document : Document} {config : Config}
    {violations : List Violation} (validated : validator.validate? document config = some violations) :
    ∀ violation ∈ violations, violation.pass ∈ validator.passes := by
  obtain ⟨info, _, rfl⟩ := validate?_eq_some validated
  intro violation member
  obtain ⟨pass, registered, added⟩ := List.mem_flatMap.mp member
  rw [Pass.pass_of_contribution added]
  exact registered

end Validator

/-- Whatever a pass logs, behind whatever was logged before, is attributed to that pass. So the findings of any list
of passes come in parts, one for each pass and under its id, and their report accounts for them. A report of the
program lists no rule twice. -/
theorem violations_attributed :
    (∀ (pass : Pass) (subject : Subject) (sink : Sink), ∃ added,
      (pass.run subject sink).violations = sink.violations ++ added ∧
      ∀ violation ∈ added, violation.pass.id = pass.id) ∧
    (∀ (validator : Validator) (document : Document) (config : Config) (violations : List Violation),
      validator.validate? document config = some violations →
        (∃ parts : List (List Violation), violations = parts.flatten ∧
          List.Forall₂ (fun pass part => ∀ violation ∈ part, violation.pass.id = pass.id) validator.passes parts) ∧
        ∀ path, Report.Sarif.Accounts (Report.Sarif.report validator path violations) violations) ∧
    (∀ (surroundings : Surroundings) (colours robot : Bool) (config : Config) (input : Path) (overrides : Overrides)
      (violations : List Violation), Invocation.validate surroundings (overrides.apply config) input = .ok violations →
        ∃ sarif, (Invocation.outcome surroundings colours robot config (.validate input .sarif overrides)).report =
            some sarif.prettyText ∧ Report.Sarif.Accounts sarif violations ∧
          ((Report.Sarif.rules sarif).map (Report.Sarif.textAt "id")).Nodup) := by
  refine ⟨?_, ?_, ?_⟩
  · intro pass subject sink
    refine ⟨pass.contribution subject, pass.violations_run subject sink, ?_⟩
    intro violation added
    rw [Pass.pass_of_contribution added]
  · intro validator document config violations validated
    refine ⟨?_, Report.Sarif.accounts_report (Validator.pass_of_violation validated)⟩
    obtain ⟨info, _, rfl⟩ := Validator.validate?_eq_some validated
    refine ⟨validator.passes.map (·.contribution ⟨document, info, config⟩), List.flatMap_def .., ?_⟩
    rw [List.forall₂_map_right_iff, List.forall₂_same]
    intro pass _ violation added
    rw [Pass.pass_of_contribution added]
  · intro surroundings colours robot config input overrides violations validated
    refine ⟨Report.Sarif.report {} input.text violations, ?_, ?_, ?_⟩
    · rw [Invocation.outcome, validated]
      cases robot <;> rfl
    · exact Report.Sarif.accounts_report (fun violation _ => violation.pass.mem_all) input.text
    · rw [Report.Sarif.ids_of_rules]
      decide

/-- Surroundings with one document in a file. -/
def roughSurroundings : Surroundings where
  look path := if path.text = "rough.json" then some (.ok Document.rough.toJson.compactText) else none
  environment _ := none

private theorem rough_loaded : Document.load roughSurroundings ⟨"rough.json"⟩ = .ok .rough := by
  have age : Schema.IsRestorable Numeral.IsWord (.mk none none []) := .mk (by simp) List.nodup_nil (by simp)
  have restorable : Document.rough.IsRestorable Numeral.IsWord := {
    bindings := List.forall_mem_nil _
    paths := by decide
    extensions := by decide
    schemas := by decide
    restorable := List.forall_mem_singleton.mpr (.mk (by simp) (by decide) (List.forall_mem_singleton.mpr age))
    nesting := by decide }
  have written : roughSurroundings.look ⟨"rough.json"⟩ = some (.ok Document.rough.toJson.compactText) := by
    simp [roughSurroundings]
  have json : Document.isJson ⟨"rough.json"⟩ = true := by decide
  rw [Document.load, written]
  simp only [json, if_true, Document.ofJson_compactText restorable]
  rfl

/-- The naming pass runs twice, before and behind the pass that reports a repeated id as a fault of naming; and the
program reports on the same document from a file. -/
theorem rough_attributed :
    (∃ violations, (⟨[.naming, .operations, .naming]⟩ : Validator).validate? .rough {} = some violations ∧
      violations.length = 11 ∧
      ∀ path, Report.Sarif.Accounts (Report.Sarif.report ⟨[.naming, .operations, .naming]⟩ path violations) violations) ∧
    ∃ violations sarif, ({} : Validator).validate? .rough {} = some violations ∧ violations.length = 13 ∧
      (Invocation.outcome roughSurroundings false false {} (.validate ⟨"rough.json"⟩ .sarif {})).report =
        some sarif.prettyText ∧ Report.Sarif.Accounts sarif violations := by
  constructor
  · have validated : (⟨[.naming, .operations, .naming]⟩ : Validator).validate? .rough {} = some _ := rfl
    exact ⟨_, validated, rfl, (violations_attributed.2.1 _ _ _ _ validated).2⟩
  · have found : ({} : Validator).validate? .rough {} = some _ := rfl
    have validated : Invocation.validate roughSurroundings (({} : Overrides).apply {}) ⟨"rough.json"⟩ = .ok _ :=
      bind_eq_ok.mpr ⟨.rough, rough_loaded, rfl⟩
    obtain ⟨sarif, printed, accounts, _⟩ :=
      violations_attributed.2.2 roughSurroundings false false {} _ {} _ validated
    exact ⟨_, sarif, found, rfl, printed, accounts⟩

end ApiStyle
