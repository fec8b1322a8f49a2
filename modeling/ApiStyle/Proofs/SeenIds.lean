import ApiStyle.Proofs.Compliance
import Mathlib.Data.List.Count

/-! What the ids seen before matter for. They decide which operations are told that their id was used before, and
nothing else; and of them only those count that operations still to come have themselves. -/

namespace ApiStyle

namespace Violation

/-- That an id was used before. -/
def isRepeat : Violation → Bool
  | naming _ _ .notUnique _ => true
  | _ => false

def isRepeatOf (id : String) (violation : Violation) : Bool := violation.isRepeat && violation.field = id

theorem pass_of_isRepeat {violation : Violation} (repeated : violation.isRepeat) : violation.pass = .operations := by
  cases violation with
  | naming subject kind issue place =>
    cases issue with
    | notUnique => rfl
    | convention expected => cases repeated
  | _ => cases repeated

end Violation

open Violation (isRepeat isRepeatOf)

namespace Endpoint

/-- What an endpoint lacks by itself. -/
def checkOwn (config : Config) (endpoint : Endpoint) : List Violation :=
  endpoint.checkId config ++ endpoint.checkTexts config

private theorem isRepeat_of_mem_checkId {config : Config} {endpoint : Endpoint} :
    ∀ violation ∈ endpoint.checkId config, violation.isRepeat = false := by
  intro violation member
  unfold checkId at member
  split at member
  · obtain rfl := List.mem_singleton.mp member
    rfl
  · cases member

private theorem isRepeat_of_mem_checkTexts {config : Config} {endpoint : Endpoint} :
    ∀ violation ∈ endpoint.checkTexts config, violation.isRepeat = false := by
  intro violation member
  simp only [checkTexts, List.mem_append] at member
  rcases member with (member | member) | member
  all_goals
    split at member
    · obtain rfl := List.mem_singleton.mp member
      rfl
    · cases member

theorem checkUnique_of_id {endpoint : Endpoint} {id : String} (own : endpoint.id? = some id) (config : Config)
    (seen : List String) : endpoint.checkUnique config seen =
      if config.enabled .operationIdUnique ∧ id ∈ seen then
        [.repeatedOperationId id endpoint.path endpoint.method] else [] := by
  simp only [checkUnique, own, ite_and]

theorem checkUnique_of_none {endpoint : Endpoint} (absent : endpoint.id? = none) (config : Config)
    (seen : List String) : endpoint.checkUnique config seen = [] := by
  simp only [checkUnique, absent, ite_self]

private theorem filter_check (config : Config) (seen : List String) (endpoint : Endpoint) :
    (endpoint.check config seen).filter (!·.isRepeat) = endpoint.checkOwn config := by
  have ids : (endpoint.checkId config).filter (!·.isRepeat) = endpoint.checkId config := by
    apply List.filter_eq_self.mpr
    intro violation member
    rw [isRepeat_of_mem_checkId violation member]
    rfl
  have texts : (endpoint.checkTexts config).filter (!·.isRepeat) = endpoint.checkTexts config := by
    apply List.filter_eq_self.mpr
    intro violation member
    rw [isRepeat_of_mem_checkTexts violation member]
    rfl
  have repeats : (endpoint.checkUnique config seen).filter (!·.isRepeat) = [] := by
    cases own : endpoint.id? with
    | none => rw [checkUnique_of_none own, List.filter_nil]
    | some id =>
      rw [checkUnique_of_id own]
      split <;> rfl
  rw [check, List.filter_append, List.filter_append, ids, repeats, texts, List.append_nil, checkOwn]

theorem filter_isRepeat_check (config : Config) (seen : List String) (endpoint : Endpoint) :
    (endpoint.check config seen).filter isRepeat = endpoint.checkUnique config seen := by
  have silent {found : List Violation} (own : ∀ violation ∈ found, violation.isRepeat = false) :
      found.filter isRepeat = [] := by
    apply List.filter_eq_nil_iff.mpr
    intro violation member
    simp [own violation member]
  have repeats : (endpoint.checkUnique config seen).filter isRepeat = endpoint.checkUnique config seen := by
    cases own : endpoint.id? with
    | none => rw [checkUnique_of_none own, List.filter_nil]
    | some id =>
      rw [checkUnique_of_id own]
      split <;> rfl
  rw [check, List.filter_append, List.filter_append, silent isRepeat_of_mem_checkId,
    silent isRepeat_of_mem_checkTexts, repeats, List.nil_append, List.append_nil]

theorem filter_checkFrom (config : Config) (seen : List String) (endpoints : List Endpoint) :
    (checkFrom config seen endpoints).filter (!·.isRepeat) = endpoints.flatMap (·.checkOwn config) := by
  induction endpoints generalizing seen with
  | nil => rfl
  | cons endpoint rest ih => rw [checkFrom, List.filter_append, filter_check, ih, List.flatMap_cons]

private theorem countP_isRepeatOf_check (config : Config) (seen : List String) (endpoint : Endpoint) (id : String) :
    (endpoint.check config seen).countP (isRepeatOf id) =
      if config.enabled .operationIdUnique ∧ endpoint.id? = some id ∧ id ∈ seen then 1 else 0 := by
  have silent {found : List Violation} (own : ∀ violation ∈ found, violation.isRepeat = false) :
      found.countP (isRepeatOf id) = 0 := by
    apply List.countP_eq_zero.mpr
    intro violation member
    simp [isRepeatOf, own violation member]
  have unique : (endpoint.checkUnique config seen).countP (isRepeatOf id) =
      if config.enabled .operationIdUnique ∧ endpoint.id? = some id ∧ id ∈ seen then 1 else 0 := by
    cases own : endpoint.id? with
    | none => simp [checkUnique_of_none own]
    | some given =>
      have told : isRepeatOf id (.repeatedOperationId given endpoint.path endpoint.method) = decide (given = id) := rfl
      rw [checkUnique_of_id own]
      by_cases same : given = id
      · subst given
        split <;> simp_all
      · split <;> simp_all
  rw [check, List.countP_append, List.countP_append, silent isRepeat_of_mem_checkId,
    silent isRepeat_of_mem_checkTexts, unique, Nat.zero_add, Nat.add_zero]

/-- Every occurrence of an id is reported but the first one, and that one too if the id was seen before. -/
theorem countP_isRepeatOf_checkFrom (config : Config) (seen : List String) (endpoints : List Endpoint) (id : String) :
    (checkFrom config seen endpoints).countP (isRepeatOf id) =
      if config.enabled .operationIdUnique then
        endpoints.countP (·.id? = some id) - (if id ∈ seen then 0 else 1)
      else 0 := by
  induction endpoints generalizing seen with
  | nil => simp [checkFrom]
  | cons endpoint rest ih =>
    rw [checkFrom, List.countP_append, countP_isRepeatOf_check, ih, List.countP_cons]
    by_cases unique : config.enabled .operationIdUnique
    · by_cases own : endpoint.id? = some id
      · by_cases repeated : id ∈ seen
        · simp [unique, own, repeated, Nat.add_comm]
        · simp [unique, own, repeated]
      · have kept : id ∈ endpoint.id?.toList ++ seen ↔ id ∈ seen := by simp [own]
        simp only [unique, own, kept, false_and, and_false, if_true, if_false, decide_false, Bool.false_eq_true,
          Nat.zero_add, Nat.add_zero]
    · simp [unique]

private theorem check_congr (config : Config) {seen other : List String} {endpoint : Endpoint}
    (same : ∀ id, endpoint.id? = some id → (id ∈ seen ↔ id ∈ other)) :
    endpoint.check config seen = endpoint.check config other := by
  have unique : endpoint.checkUnique config seen = endpoint.checkUnique config other := by
    cases own : endpoint.id? with
    | none => rw [checkUnique_of_none own, checkUnique_of_none own]
    | some id => simp only [checkUnique_of_id own, same id own]
  rw [check, check, unique]

theorem checkFrom_congr (config : Config) {seen other : List String} {endpoints : List Endpoint}
    (same : ∀ endpoint ∈ endpoints, ∀ id, endpoint.id? = some id → (id ∈ seen ↔ id ∈ other)) :
    checkFrom config seen endpoints = checkFrom config other endpoints := by
  induction endpoints generalizing seen other with
  | nil => rfl
  | cons endpoint rest ih =>
    obtain ⟨here, later⟩ := List.forall_mem_cons.mp same
    have kept : ∀ follower ∈ rest, ∀ id, follower.id? = some id →
        (id ∈ endpoint.id?.toList ++ seen ↔ id ∈ endpoint.id?.toList ++ other) := by
      intro follower member id own
      rw [List.mem_append, List.mem_append, later follower member id own]
    rw [checkFrom, checkFrom, check_congr config here, ih kept]

end Endpoint

end ApiStyle
