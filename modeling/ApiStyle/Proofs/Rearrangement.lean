import ApiStyle.Proofs.Occurrences
import ApiStyle.Proofs.SeenIds
import Mathlib.Data.List.Perm.Basic

/-! Documents whose servers, paths and schemas stand in another order. Everything is found again that is wrong with
a part by itself. Of operations with one id all but the first are reported, so the order decides which of them are
told, but not how many. -/

namespace ApiStyle

open Violation (isRepeat isRepeatOf)

namespace Document

/-- The other document has the same servers, paths and schemas, each of them in any order. -/
structure Rearranges (document other : Document) : Prop where
  info : other.info = document.info
  servers : document.servers.Perm other.servers
  paths : document.paths.Perm other.paths
  schemas : document.schemas.Perm other.schemas

/-- How many operations have an id. -/
def occurrences (document : Document) (id : String) : Nat :=
  document.endpoints.countP fun endpoint => endpoint.operation.operationId = some id

variable {document other : Document}

theorem Rearranges.endpoints (rearranged : document.Rearranges other) : document.endpoints.Perm other.endpoints :=
  rearranged.paths.flatMap_right _

private theorem Rearranges.occurrences (rearranged : document.Rearranges other) (id : String) :
    other.occurrences id = document.occurrences id :=
  (rearranged.endpoints.countP_eq _).symm

end Document

private theorem countP_isRepeatOf_checkOperations (config : Config) (document : Document) {id : String}
    (nonempty : id ≠ "") :
    (checkOperations config document).countP (isRepeatOf id) =
      if config.enabled .operationIdUnique then document.occurrences id - 1 else 0 := by
  have carried : document.endpoints.countP (·.id? = some id) = document.occurrences id := by
    apply List.countP_congr
    intro endpoint _
    simp [Endpoint.id?_eq_some, nonempty]
  rw [checkOperations, Endpoint.countP_isRepeatOf_checkFrom, carried]
  rfl

namespace Pass

variable {document other : Document}

/-- Passes go through servers, paths and schemas one by one, and the ids seen on the way only make for repeats. -/
theorem contribution_perm (rearranged : document.Rearranges other) (info : Info) (config : Config) (pass : Pass) :
    ((pass.contribution ⟨document, info, config⟩).filter (!·.isRepeat)).Perm
      ((pass.contribution ⟨other, info, config⟩).filter (!·.isRepeat)) := by
  have findings : ((pass.findings ⟨document, info, config⟩).filter (!·.isRepeat)).Perm
      ((pass.findings ⟨other, info, config⟩).filter (!·.isRepeat)) := by
    cases pass with
    | info => exact List.Perm.refl _
    | servers => exact (rearranged.servers.flatMap_right _).filter _
    | operations =>
      simp only [findings, checkOperations, Endpoint.filter_checkFrom]
      exact rearranged.endpoints.flatMap_right _
    | models => exact (rearranged.schemas.flatMap_right _).filter _
    | naming =>
      apply List.Perm.filter
      exact (rearranged.schemas.flatMap_right _).append (rearranged.paths.flatMap_right _)
  unfold contribution
  split
  · exact findings
  · exact List.Perm.refl _

end Pass

/-- In any order of servers, paths and schemas the same violations are found but for repeated ids, and of every id
all occurrences but one are repeats. -/
theorem validate?_rearranged {document other : Document} {info : Info} (present : document.info = some info)
    (rearranged : document.Rearranges other) (config : Config) :
    ∃ violations found, ({} : Validator).validate? document config = some violations ∧
      ({} : Validator).validate? other config = some found ∧
      (violations.filter (!·.isRepeat)).Perm (found.filter (!·.isRepeat)) ∧
      ∀ id, id ≠ "" →
        violations.countP (isRepeatOf id) =
          (if config.enabled .operationIdUnique then document.occurrences id - 1 else 0) ∧
        found.countP (isRepeatOf id) =
          if config.enabled .operationIdUnique then document.occurrences id - 1 else 0 := by
  have presentToo : other.info = some info := rearranged.info.trans present
  refine ⟨_, _, Validator.validate?_of_info present config Pass.all,
    Validator.validate?_of_info presentToo config Pass.all, ?_, ?_⟩
  · rw [List.filter_flatMap, List.filter_flatMap]
    apply List.Perm.flatMap_left
    intro pass _
    exact pass.contribution_perm rearranged info config
  · intro id nonempty
    have told (violation : Violation) (repeated : violation.isRepeatOf id) : violation.pass = .operations :=
      Violation.pass_of_isRepeat (Bool.and_eq_true_iff.mp repeated).1
    rw [Pass.countP_contributions told, Pass.countP_contributions told, Pass.contribution_operations,
      Pass.contribution_operations, countP_isRepeatOf_checkOperations config document nonempty,
      countP_isRepeatOf_checkOperations config other nonempty, rearranged.occurrences]
    exact ⟨rfl, rfl⟩

/-- Two paths with the same id under them, and a clean server between two that are not. -/
def Document.twins : Document where
  info := some {}
  servers := [{ url := "\x7bhost\x7d" }, { url := "/" }, { url := "nowhere" }]
  paths := [("/a", { get := some { operationId := some "list" } }),
    ("/b", { put := some { operationId := some "list" }, get := some { operationId := some "list" } })]

theorem twins_rearranged :
    Document.twins.info = some {} ∧
    Document.twins.Rearranges
      { Document.twins with paths := Document.twins.paths.reverse, servers := Document.twins.servers.reverse } ∧
    ∃ violations found, ({} : Validator).validate? .twins {} = some violations ∧
      ({} : Validator).validate? { Document.twins with
        paths := Document.twins.paths.reverse, servers := Document.twins.servers.reverse } {} = some found ∧
      (violations.filter (!·.isRepeat)).Perm (found.filter (!·.isRepeat)) ∧
      violations.countP (isRepeatOf "list") = 2 ∧ found.countP (isRepeatOf "list") = 2 := by
  have rearranged : Document.twins.Rearranges
      { Document.twins with paths := Document.twins.paths.reverse, servers := Document.twins.servers.reverse } :=
    ⟨rfl, (List.reverse_perm _).symm, (List.reverse_perm _).symm, List.Perm.refl _⟩
  obtain ⟨violations, found, validated, validatedToo, same, repeats⟩ := validate?_rearranged rfl rearranged {}
  obtain ⟨first, second⟩ := repeats "list" (by decide)
  refine ⟨rfl, rearranged, violations, found, validated, validatedToo, same, ?_, ?_⟩
  · exact first.trans (by decide)
  · exact second.trans (by decide)

end ApiStyle
