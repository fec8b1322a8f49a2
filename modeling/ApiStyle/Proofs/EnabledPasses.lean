import ApiStyle.Proofs.Attribution
import ApiStyle.Proofs.Compliance
import ApiStyle.Report.Rules

/-! Passes that are listed as enabled. A pass that is not enabled finds nothing in any document. For one that is, a
toggle is on that can make it find something, and there is a document in which each of these toggles does, whichever
others are on and whatever names and domains are configured. -/

namespace ApiStyle

/-- A document with a fault for every toggle that can make a pass find something. -/
def Document.faulty : Document where
  info := some {}
  servers := [{ url := "\x7bhost\x7d" }]
  paths := [("/ ", {
    get := some { operationId := some "list" }
    put := some { operationId := some "list" }
    post := some {} })]
  components := some ⟨[("Pet", .mk none none [("age", .mk none none [])])]⟩

variable {config : Config}

theorem not_stated_none : ¬ Stated none := by
  rintro ⟨_, impossible, _⟩
  cases impossible

theorem Convention.rejects_blank (convention : Convention) : convention.accepts " " = false := by
  cases convention <;> decide

theorem Info.empty_not_complies {toggle : Toggle} (decides : toggle ∈ Pass.info.effective)
    (on : config.enabled toggle) : ¬ ({} : Info).Complies config := by
  intro complies
  simp only [Pass.effective, Pass.toggles, List.mem_cons, List.not_mem_nil, or_false] at decides
  rcases decides with rfl | rfl | rfl
  · obtain ⟨_, impossible, _⟩ := complies.license on
    cases impossible
  · exact not_stated_none (complies.description on)
  · obtain ⟨_, impossible, _⟩ := complies.contact on
    cases impossible

namespace Document

private theorem faulty_server : ¬ ∀ server ∈ faulty.servers, server.Complies config := by
  intro complies
  have inside : Template.Piece.placeholder "host".toList ∈ Server.pieces { url := "\x7bhost\x7d" } := by
    simp [Server.pieces, Template.pieces, Template.closing?]
  obtain ⟨_, impossible⟩ := (complies _ List.mem_cons_self).declared _ inside
  cases impossible

private theorem faulty_operations {toggle : Toggle} (decides : toggle ∈ Pass.operations.effective)
    (on : config.enabled toggle) :
    ¬ ((∀ index method operation, faulty.operationAt? index method = some operation → operation.Complies config) ∧
      (config.enabled .operationIdUnique → faulty.IdsAreUnique)) := by
  rintro ⟨complies, unique⟩
  have bare := complies 0 .post {} rfl
  simp only [Pass.effective, Pass.toggles, List.mem_cons, List.not_mem_nil, or_false] at decides
  rcases decides with rfl | rfl | rfl | rfl | rfl
  · exact not_stated_none (bare.operationId on)
  · obtain ⟨_, impossible⟩ := unique on 0 0 .get .put _ _ "list" rfl rfl rfl rfl (by decide)
    cases impossible
  · exact not_stated_none (bare.description on)
  · exact not_stated_none (bare.summary on)
  · obtain ⟨_, impossible, _⟩ := bare.tags on
    cases impossible

private theorem faulty_models : ¬ ∀ name schema, (name, schema) ∈ faulty.schemas → ∀ property content,
    (property, content) ∈ schema.properties →
      (∃ target, content.reference = some target) ∨ ∃ sample, content.sample = some sample := by
  intro complies
  rcases complies _ _ List.mem_cons_self _ _ List.mem_cons_self with ⟨_, impossible⟩ | ⟨_, impossible⟩
  · cases impossible
  · cases impossible

private theorem faulty_names : ¬ faulty.NamesComply config := by
  intro complies
  have literal : IsLiteralSegment "/ " " " := mem_literalSegments.mp (by decide)
  have accepted := complies.segments _ _ List.mem_cons_self " " literal
  rw [Convention.rejects_blank] at accepted
  cases accepted

end Document

namespace Pass

variable {pass : Pass}

theorem contribution_faulty (enabled : pass.isEnabled config) : pass.contribution ⟨.faulty, {}, config⟩ ≠ [] := by
  obtain ⟨toggle, decides, on⟩ := List.any_eq_true.mp enabled
  intro none
  cases pass with
  | info => exact Info.empty_not_complies decides on (info_clean.mp none)
  | servers =>
    obtain rfl := List.mem_singleton.mp decides
    exact Document.faulty_server (servers_clean.mp none on)
  | operations => exact Document.faulty_operations decides on (operations_clean.mp none)
  | models =>
    obtain rfl := List.mem_singleton.mp decides
    exact Document.faulty_models (models_clean.mp none on)
  | naming =>
    obtain rfl := List.mem_singleton.mp decides
    exact Document.faulty_names (naming_clean.mp none on)

private theorem isEnabled_of_contribution {subject : Subject} {violation : Violation}
    (added : violation ∈ pass.contribution subject) : pass.isEnabled subject.config := by
  unfold contribution at added
  split at added
  next enabled => exact enabled
  next => cases added

/-- A pass is enabled exactly if some run reports a violation of it. -/
theorem isEnabled_iff_reported : pass.isEnabled config ↔ ∃ document info violations, document.info = some info ∧
    ({} : Validator).validate? document config = some violations ∧ ∃ violation ∈ violations, violation.pass = pass := by
  constructor
  · intro enabled
    obtain ⟨violation, added⟩ := List.exists_mem_of_ne_nil _ (contribution_faulty enabled)
    refine ⟨.faulty, {}, _, rfl, Validator.validate?_of_info rfl config all, violation, ?_, pass_of_contribution added⟩
    exact List.mem_flatMap.mpr ⟨pass, pass.mem_all, added⟩
  · rintro ⟨document, _, violations, _, validated, violation, member, rfl⟩
    obtain ⟨info, _, rfl⟩ := Validator.validate?_eq_some validated
    obtain ⟨other, _, added⟩ := List.mem_flatMap.mp member
    rw [pass_of_contribution added]
    exact isEnabled_of_contribution added

end Pass

namespace Report

/-- A listing has an entry that calls a pass enabled. -/
def ListsEnabled (listing : Json) (pass : Pass) : Prop :=
  ∃ entries, listing = .array entries ∧ ∃ entry ∈ entries,
    entry.member? "id" = some (.string pass.id) ∧ entry.member? "enabled" = some (.bool true)

private theorem listsEnabled_iff {validator : Validator} {config : Config} {pass : Pass} :
    ListsEnabled (passesJson validator config) pass ↔ pass ∈ validator.passes ∧ pass.isEnabled config := by
  have id (pass : Pass) : (passJson config pass).member? "id" = some (.string pass.id) := by
    simp [passJson, Json.member?]
  have enabled (pass : Pass) : (passJson config pass).member? "enabled" = some (.bool (pass.isEnabled config)) := by
    simp [passJson, Json.member?, List.lookup_cons]
  constructor
  · rintro ⟨entries, same, entry, member, named, on⟩
    obtain rfl := Json.array.inj same
    obtain ⟨other, registered, rfl⟩ := List.mem_map.mp member
    rw [id] at named
    rw [enabled] at on
    obtain rfl := Pass.id_injective (Json.string.inj (Option.some.inj named))
    exact ⟨registered, Json.bool.inj (Option.some.inj on)⟩
  · rintro ⟨registered, on⟩
    refine ⟨_, rfl, passJson config pass, List.mem_map_of_mem registered, id pass, ?_⟩
    rw [enabled, on]

/-- The listing of the program calls a pass enabled exactly if there is a document with an info object for which a run
under the same configuration reports a violation with the id of the pass. -/
theorem listed_enabled_iff_reported (config : Config) (pass : Pass) :
    ListsEnabled (passesJson {} config) pass ↔ ∃ document info violations, document.info = some info ∧
      ({} : Validator).validate? document config = some violations ∧
        ∃ violation ∈ violations, violation.pass.id = pass.id := by
  have same (violation : Violation) : violation.pass.id = pass.id ↔ violation.pass = pass :=
    ⟨Pass.id_injective, congrArg Pass.id⟩
  simp only [same]
  rw [listsEnabled_iff, Pass.isEnabled_iff_reported]
  exact and_iff_right pass.mem_all

end Report

end ApiStyle
