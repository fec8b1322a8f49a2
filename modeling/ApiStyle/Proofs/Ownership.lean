import ApiStyle.Proofs.Validation
import Mathlib.Logic.Basic

/-! Every violation has an owner, the toggle of the rule that reports it, which can be told from the violation
alone. Passes look at toggles twice, once to be run at all and once inside; the main statement is that both
together do no more than filter: a run is the run with all owners on, less the violations whose owner is off. -/

namespace ApiStyle

namespace Violation

/-- The toggle of the rule that reports violations like this one. -/
def owner? : Violation → Option Toggle
  | generic _ field _ =>
    [("license", .infoLicense), ("description", .infoDescription), ("contact", .infoContact),
      ("server", .serverInfo)].lookup field
  | operation field _ _ _ =>
    [("operationId", .operationId), ("description", .operationDescription), ("summary", .operationSummary),
      ("tags", .operationTag)].lookup field
  | model .. => some .propertyExample
  | naming _ _ .notUnique _ => some .operationIdUnique
  | naming _ _ (.convention _) _ => some .naming

/-- Whether the rule that a violation belongs to is on. -/
def isWanted (config : Config) (violation : Violation) : Bool := violation.owner?.any config.enabled

private theorem isWanted_of_owner {config : Config} {violation : Violation} {toggle : Toggle}
    (owned : violation.owner? = some toggle) : violation.isWanted config = config.enabled toggle := by
  rw [isWanted, owned, Option.any_some]

private theorem filter_isWanted {config : Config} {toggle : Toggle} {found : List Violation}
    (owned : ∀ violation ∈ found, violation.owner? = some toggle) :
    found.filter (isWanted config) = if config.enabled toggle then found else [] := by
  have same : ∀ violation ∈ found, violation.isWanted config = config.enabled toggle :=
    fun violation member => isWanted_of_owner (owned violation member)
  rw [List.filter_congr same]
  cases config.enabled toggle <;> simp

end Violation

/-- The toggles of rules that report violations. The other two only shape what is reported, or do nothing. -/
def Toggle.owners : List Toggle := all.filter fun toggle => toggle ∉ [noLocalDefinition, ignoreCustomHeader]

namespace Config

/-- A configuration with every owner switched on. -/
def withOwners (config : Config) : Config := Toggle.owners.foldl (fun config toggle => config.set toggle true) config

theorem withOwners_eq (config : Config) : config.withOwners =
    { config with enabled := fun toggle => decide (toggle ∈ Toggle.owners) || config.enabled toggle } := by
  rw [withOwners, foldl_set]
  refine congrArg (fun enabled => { config with enabled }) (funext fun toggle => ?_)
  by_cases owner : toggle ∈ Toggle.owners <;> simp [owner]

private theorem owner_is_on (config : Config) {toggle : Toggle} (owner : toggle ∈ Toggle.owners) :
    config.withOwners.enabled toggle = true := by
  simp only [withOwners_eq, owner, decide_true, Bool.true_or]

end Config

open Violation (isWanted)

private theorem filter_gated {config : Config} {toggle : Toggle} {found : List Violation}
    (owner : toggle ∈ Toggle.owners) (owned : ∀ violation ∈ found, violation.owner? = some toggle) :
    (if config.withOwners.enabled toggle then found else []).filter (isWanted config) =
      if config.enabled toggle then found else [] := by
  rw [config.owner_is_on owner, if_pos rfl, Violation.filter_isWanted owned]

theorem owned_singleton {violation : Violation} {toggle : Toggle} (owned : violation.owner? = some toggle) :
    ∀ other ∈ [violation], other.owner? = some toggle := by
  simpa using owned

theorem owned_if {reported : Prop} [Decidable reported] {found : List Violation} {toggle : Toggle}
    (owned : ∀ violation ∈ found, violation.owner? = some toggle) :
    ∀ violation ∈ (if reported then found else []), violation.owner? = some toggle := by
  split
  · exact owned
  · simp

theorem owned_unless {spared : Prop} [Decidable spared] {violation : Violation} {toggle : Toggle}
    (owned : violation.owner? = some toggle) :
    ∀ other ∈ (if spared then [] else [violation]), other.owner? = some toggle := by
  split
  · simp
  · exact owned_singleton owned

namespace Info

theorem owner_of_checkLicense {info : Info} :
    ∀ violation ∈ info.checkLicense, violation.owner? = some .infoLicense := by
  unfold checkLicense
  split
  · exact owned_singleton rfl
  · exact owned_unless rfl

theorem owner_of_checkDescription {info : Info} :
    ∀ violation ∈ info.checkDescription, violation.owner? = some .infoDescription :=
  owned_unless rfl

theorem owner_of_checkContact {info : Info} :
    ∀ violation ∈ info.checkContact, violation.owner? = some .infoContact := by
  unfold checkContact
  split
  · exact owned_singleton rfl
  · exact owned_unless rfl

private theorem check_eq_filter (config : Config) (info : Info) :
    info.check config = (info.check config.withOwners).filter (isWanted config) := by
  have license : Toggle.infoLicense ∈ Toggle.owners := by decide
  have description : Toggle.infoDescription ∈ Toggle.owners := by decide
  have contact : Toggle.infoContact ∈ Toggle.owners := by decide
  simp only [check, List.filter_append, filter_gated license owner_of_checkLicense,
    filter_gated description owner_of_checkDescription, filter_gated contact owner_of_checkContact]

end Info

namespace Endpoint

theorem check_eq (config : Config) (seen : List String) (endpoint : Endpoint) : endpoint.check config seen =
    (if config.enabled .operationId then
      (if endpoint.id?.isNone then [endpoint.missing "operationId"] else []) else [])
    ++ (if config.enabled .operationIdUnique then
      (endpoint.id?.filter (· ∈ seen)).toList.map (.repeatedOperationId · endpoint.path endpoint.method) else [])
    ++ (if config.enabled .operationDescription then
      (if hasText endpoint.operation.description then [] else [endpoint.missing "description"]) else [])
    ++ (if config.enabled .operationSummary then
      (if hasText endpoint.operation.summary then [] else [endpoint.missing "summary"]) else [])
    ++ (if config.enabled .operationTag then
      (if endpoint.operation.tags.all List.isEmpty then
        [.missingOperationItems endpoint.path endpoint.method "tags"] else []) else []) := by
  have unique : endpoint.checkUnique config seen = if config.enabled .operationIdUnique then
      (endpoint.id?.filter (· ∈ seen)).toList.map (.repeatedOperationId · endpoint.path endpoint.method) else [] := by
    unfold checkUnique
    cases endpoint.id? with
    | none => rfl
    | some id => by_cases repeated : id ∈ seen <;> simp [Option.filter_some, repeated]
  have spare (stated : Bool) (violation : Violation) :
      (if !stated then [violation] else []) = if stated then [] else [violation] := by cases stated <;> rfl
  simp only [check, checkId, checkTexts, unique, Bool.and_eq_true, ite_and, spare, List.append_assoc]

theorem owner_of_repeated {endpoint : Endpoint} {repeated : List String} :
    ∀ violation ∈ repeated.map (Violation.repeatedOperationId · endpoint.path endpoint.method),
      violation.owner? = some .operationIdUnique := by
  rintro violation member
  obtain ⟨id, _, rfl⟩ := List.mem_map.mp member
  rfl

private theorem check_eq_filter (config : Config) (seen : List String) (endpoint : Endpoint) :
    endpoint.check config seen = (endpoint.check config.withOwners seen).filter (isWanted config) := by
  simp only [check_eq, List.filter_append]
  rw [filter_gated (by decide) (owned_if (owned_singleton rfl)), filter_gated (by decide) owner_of_repeated,
    filter_gated (by decide) (owned_unless rfl), filter_gated (by decide) (owned_unless rfl),
    filter_gated (by decide) (owned_if (owned_singleton rfl))]

private theorem checkFrom_eq_filter (config : Config) (seen : List String) (endpoints : List Endpoint) :
    checkFrom config seen endpoints = (checkFrom config.withOwners seen endpoints).filter (isWanted config) := by
  induction endpoints generalizing seen with
  | nil => rfl
  | cons endpoint rest ih => rw [checkFrom, checkFrom, List.filter_append, ← ih, ← check_eq_filter]

end Endpoint

theorem owner_of_checkServers {config : Config} {document : Document} :
    ∀ violation ∈ checkServers config document, violation.owner? = some .serverInfo := by
  intro violation member
  obtain ⟨server, _, found⟩ := List.mem_flatMap.mp member
  unfold Server.check at found
  split at found
  · exact owned_unless rfl violation found
  · obtain ⟨name, _, rfl⟩ := List.mem_map.mp found
    rfl

theorem owner_of_checkModels {document : Document} :
    ∀ violation ∈ checkModels document, violation.owner? = some .propertyExample := by
  simp only [checkModels, checkModel, List.mem_flatMap, List.mem_filterMap]
  rintro violation ⟨_, _, _, _, found⟩
  split at found
  · obtain rfl := Option.some.inj found
    rfl
  · cases found

theorem owner_of_checkNames {config : Config} {document : Document} :
    ∀ violation ∈ checkNames config document, violation.owner? = some .naming := by
  simp only [checkNames, checkPropertyNames, checkPathNames, checkParameterNames, checkSegments, List.mem_append,
    List.mem_flatMap, List.mem_filterMap, Option.bind_eq_some_iff]
  rintro violation (⟨_, _, _, _, found⟩ | ⟨_, _, ⟨_, _, _, _, _, _, found⟩ | ⟨_, _, found⟩⟩)
  all_goals
    split at found
    · cases found
    · obtain rfl := Option.some.inj found
      rfl

namespace Pass

variable {document : Document} {info : Info} {config : Config}

private theorem contribution_of_gate {pass : Pass} {toggle : Toggle} (owner : toggle ∈ Toggle.owners)
    (gate : pass.effective = [toggle])
    (owned : ∀ violation ∈ pass.findings ⟨document, info, config⟩, violation.owner? = some toggle)
    (same : pass.findings ⟨document, info, config.withOwners⟩ = pass.findings ⟨document, info, config⟩) :
    pass.contribution ⟨document, info, config⟩ =
      (pass.contribution ⟨document, info, config.withOwners⟩).filter (isWanted config) := by
  simp only [contribution, isEnabled, gate, List.any_cons, List.any_nil, Bool.or_false, same]
  exact (filter_gated owner owned).symm

/-- A pass that filters inside finds nothing when none of its owners is on, so that its gate adds nothing. -/
private theorem contribution_of_filter {pass : Pass} (enabled : pass.isEnabled config.withOwners = true)
    (inside : pass.findings ⟨document, info, config⟩ =
      (pass.findings ⟨document, info, config.withOwners⟩).filter (isWanted config))
    (idle : ¬ pass.isEnabled config → pass.findings ⟨document, info, config⟩ = []) :
    pass.contribution ⟨document, info, config⟩ =
      (pass.contribution ⟨document, info, config.withOwners⟩).filter (isWanted config) := by
  simp only [contribution, enabled, if_true, ← inside]
  split
  · rfl
  next disabled => exact (idle disabled).symm

private theorem info_idle (disabled : ¬ Pass.info.isEnabled config) : info.check config = [] := by
  simp only [isEnabled, effective, toggles, List.any_cons, List.any_nil, Bool.or_eq_true, not_or] at disabled
  obtain ⟨license, description, contact, _⟩ := disabled
  simp only [Info.check, license, description, contact, Bool.false_eq_true, if_false, List.append_nil]

theorem operations_idle (disabled : ¬ Pass.operations.isEnabled config) :
    checkOperations config document = [] := by
  simp only [isEnabled, effective, toggles, List.any_cons, List.any_nil, Bool.or_eq_true, not_or] at disabled
  obtain ⟨operationId, unique, description, summary, tags, _⟩ := disabled
  have silent (seen : List String) (endpoints : List Endpoint) : Endpoint.checkFrom config seen endpoints = [] := by
    induction endpoints generalizing seen with
    | nil => rfl
    | cons endpoint rest ih =>
      simp only [Endpoint.checkFrom, Endpoint.check_eq, operationId, unique, description, summary, tags,
        Bool.false_eq_true, if_false, List.append_nil, ih]
  exact silent [] document.endpoints

private theorem contribution_eq_filter (pass : Pass) (document : Document) (info : Info) (config : Config) :
    pass.contribution ⟨document, info, config⟩ =
      (pass.contribution ⟨document, info, config.withOwners⟩).filter (isWanted config) := by
  cases pass with
  | info => exact contribution_of_filter rfl (Info.check_eq_filter config info) info_idle
  | servers => exact contribution_of_gate (by decide) rfl owner_of_checkServers rfl
  | operations =>
    exact contribution_of_filter rfl (Endpoint.checkFrom_eq_filter config [] document.endpoints) operations_idle
  | models => exact contribution_of_gate (by decide) rfl owner_of_checkModels rfl
  | naming => exact contribution_of_gate (by decide) rfl owner_of_checkNames rfl

theorem contribution_noLocalDefinition (pass : Pass) (document : Document) (info : Info) (config : Config)
    (on : Bool) : pass.contribution ⟨document, info, config.set .noLocalDefinition on⟩ =
      pass.contribution ⟨document, info, config⟩ := by
  cases pass with
  | operations =>
    have findings : Pass.operations.findings ⟨document, info, config.set .noLocalDefinition on⟩ =
        Pass.operations.findings ⟨document, info, config⟩ := by
      apply Endpoint.checkFrom_of_check
      exact fun _ _ => rfl
    unfold contribution
    rw [findings]
    rfl
  | info | servers | models | naming => rfl

end Pass

/-- Toggles only filter: a run reports what it reports with all owners on, in the same order, less the violations
whose owner is off; and the toggle without a rule changes nothing. -/
theorem validate?_eq_filter (document : Document) (config : Config) :
    ({} : Validator).validate? document config =
      (({} : Validator).validate? document config.withOwners).map (·.filter (isWanted config)) ∧
    ∀ on, ({} : Validator).validate? document (config.set .noLocalDefinition on) =
      ({} : Validator).validate? document config := by
  simp only [Validator.validate?_eq, Option.map_map, Function.comp_def, List.filter_flatMap,
    ← Pass.contribution_eq_filter, Pass.contribution_noLocalDefinition, implies_true, and_self]

end ApiStyle
