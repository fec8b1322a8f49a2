import ApiStyle.Proofs.SeenIds
import Mathlib.Data.Finset.Card

/-! Which operations are told that their id was used before. Operations are taken in the order of a run, path by path
and by method within a path. Told are those whose id is not empty and stood at an operation before them, each under its
own id, path and method. So every id is told one time less than it is used. -/

namespace ApiStyle

open Violation (isRepeat)

namespace Endpoint

/-- The operation at a position has an id, and the id is not empty. -/
def UsesId (endpoints : List Endpoint) (position : Nat) (id : String) : Prop :=
  ∃ endpoint, endpoints[position]? = some endpoint ∧ endpoint.operation.operationId = some id ∧ id ≠ ""

/-- The operation at a position has the id of one before it. -/
def RepeatsId (endpoints : List Endpoint) (position : Nat) (id : String) : Prop :=
  UsesId endpoints position id ∧ ∃ earlier < position, UsesId endpoints earlier id

/-- A violation tells that the id of the operation at a position is not unique. -/
def TellsRepeat (endpoints : List Endpoint) (position : Nat) (violation : Violation) : Prop :=
  ∃ endpoint id, endpoints[position]? = some endpoint ∧ endpoint.operation.operationId = some id ∧
    violation = .naming id .operationId .notUnique (.operation endpoint.path (some endpoint.method))

/-- One violation for each operation that repeats an id, in the order of the operations. -/
def RepeatsInOrder (endpoints : List Endpoint) (repeats : List Violation) : Prop :=
  ∃ positions : List Nat, positions.Pairwise (· < ·) ∧
    (∀ position, position ∈ positions ↔ ∃ id, RepeatsId endpoints position id) ∧
    List.Forall₂ (TellsRepeat endpoints) positions repeats

/-- The ids that are not empty, one for each operation that has one. -/
def usedIds (endpoints : List Endpoint) : List String := endpoints.filterMap id?

theorem usesId_iff {endpoints : List Endpoint} {position : Nat} {id : String} :
    UsesId endpoints position id ↔ ∃ endpoint, endpoints[position]? = some endpoint ∧ endpoint.id? = some id := by
  simp only [UsesId, id?_eq_some]

private theorem mem_usedIds {endpoints : List Endpoint} {id : String} :
    id ∈ usedIds endpoints ↔ ∃ position, UsesId endpoints position id := by
  rw [usedIds, List.mem_filterMap]
  simp only [usesId_iff]
  constructor
  · rintro ⟨endpoint, member, own⟩
    obtain ⟨position, here⟩ := List.mem_iff_getElem?.mp member
    exact ⟨position, endpoint, here, own⟩
  · rintro ⟨position, endpoint, here, own⟩
    exact ⟨endpoint, List.mem_of_getElem? here, own⟩

theorem UsesId.lt_length {endpoints : List Endpoint} {position : Nat} {id : String}
    (uses : UsesId endpoints position id) : position < endpoints.length := by
  obtain ⟨_, here, _⟩ := uses
  exact (List.getElem?_eq_some_iff.mp here).1

section

variable {endpoints : List Endpoint} {endpoint : Endpoint} {position : Nat} {id : String}

theorem usesId_before (inside : position < endpoints.length) :
    UsesId (endpoints ++ [endpoint]) position id ↔ UsesId endpoints position id := by
  simp only [UsesId, List.getElem?_append_left inside]

private theorem usesId_last : UsesId (endpoints ++ [endpoint]) endpoints.length id ↔ endpoint.id? = some id := by
  simp [usesId_iff]

theorem RepeatsId.lt_length (repeats : RepeatsId endpoints position id) : position < endpoints.length :=
  repeats.1.lt_length

private theorem repeatsId_before (inside : position < endpoints.length) :
    RepeatsId (endpoints ++ [endpoint]) position id ↔ RepeatsId endpoints position id := by
  unfold RepeatsId
  rw [usesId_before inside]
  refine and_congr_right fun _ => exists_congr fun earlier => and_congr_right fun before => ?_
  exact usesId_before (Nat.lt_trans before inside)

theorem repeatsId_last : RepeatsId (endpoints ++ [endpoint]) endpoints.length id ↔
    endpoint.id? = some id ∧ id ∈ usedIds endpoints := by
  unfold RepeatsId
  rw [usesId_last, mem_usedIds]
  refine and_congr_right fun _ => exists_congr fun earlier => ?_
  constructor
  · rintro ⟨before, uses⟩
    exact (usesId_before before).mp uses
  · intro uses
    exact ⟨uses.lt_length, (usesId_before uses.lt_length).mpr uses⟩

theorem repeatsId_snoc : RepeatsId (endpoints ++ [endpoint]) position id ↔
    RepeatsId endpoints position id ∨
      position = endpoints.length ∧ endpoint.id? = some id ∧ id ∈ usedIds endpoints := by
  constructor
  · intro repeats
    have within : position < endpoints.length + 1 := by simpa using repeats.lt_length
    by_cases inside : position < endpoints.length
    · exact Or.inl ((repeatsId_before inside).mp repeats)
    · obtain rfl : position = endpoints.length := by omega
      exact Or.inr ⟨rfl, repeatsId_last.mp repeats⟩
  · rintro (repeats | ⟨rfl, repeats⟩)
    · exact (repeatsId_before repeats.lt_length).mpr repeats
    · exact repeatsId_last.mpr repeats

theorem TellsRepeat.snoc {violation : Violation} (tells : TellsRepeat endpoints position violation) :
    TellsRepeat (endpoints ++ [endpoint]) position violation := by
  obtain ⟨told, id, here, own, said⟩ := tells
  have inside : position < endpoints.length := (List.getElem?_eq_some_iff.mp here).1
  exact ⟨told, id, (List.getElem?_append_left inside).trans here, own, said⟩

theorem RepeatsInOrder.fresh {repeats : List Violation} (reports : RepeatsInOrder endpoints repeats)
    (new : ∀ id, endpoint.id? = some id → id ∉ usedIds endpoints) :
    RepeatsInOrder (endpoints ++ [endpoint]) repeats := by
  obtain ⟨positions, ascending, found, told⟩ := reports
  refine ⟨positions, ascending, fun position => ?_, told.imp fun _ _ tells => tells.snoc⟩
  rw [found]
  refine exists_congr fun id => ?_
  rw [repeatsId_snoc]
  constructor
  · exact Or.inl
  · rintro (repeats | ⟨_, own, known⟩)
    · exact repeats
    · exact absurd known (new id own)

theorem RepeatsInOrder.known {repeats : List Violation} (reports : RepeatsInOrder endpoints repeats)
    (own : endpoint.id? = some id) (known : id ∈ usedIds endpoints) :
    RepeatsInOrder (endpoints ++ [endpoint])
      (repeats ++ [.repeatedOperationId id endpoint.path endpoint.method]) := by
  obtain ⟨positions, ascending, found, told⟩ := reports
  have inside : ∀ position ∈ positions, position < endpoints.length := by
    intro position member
    obtain ⟨_, repeats⟩ := (found position).mp member
    exact repeats.lt_length
  refine ⟨positions ++ [endpoints.length], ?_, fun position => ?_, ?_⟩
  · refine List.pairwise_append.mpr ⟨ascending, List.pairwise_singleton _ _, ?_⟩
    intro position member last isLast
    obtain rfl := List.mem_singleton.mp isLast
    exact inside position member
  · rw [List.mem_append, found, List.mem_singleton]
    constructor
    · rintro (⟨other, repeats⟩ | rfl)
      · exact ⟨other, repeatsId_snoc.mpr (Or.inl repeats)⟩
      · exact ⟨id, repeatsId_last.mpr ⟨own, known⟩⟩
    · rintro ⟨other, repeats⟩
      rcases repeatsId_snoc.mp repeats with before | ⟨last, _⟩
      · exact Or.inl ⟨other, before⟩
      · exact Or.inr last
  · have last : TellsRepeat (endpoints ++ [endpoint]) endpoints.length
        (.repeatedOperationId id endpoint.path endpoint.method) :=
      ⟨endpoint, id, List.getElem?_concat_length, (id?_eq_some.mp own).1, rfl⟩
    exact List.rel_append (told.imp fun _ _ tells => tells.snoc) (.cons last .nil)

end

variable {config : Config} {endpoints : List Endpoint} {endpoint : Endpoint} {id : String}

/-- What is told about ids that were used before. -/
def repeats (config : Config) (endpoints : List Endpoint) : List Violation :=
  (checkFrom config [] endpoints).filter (·.isRepeat)

private theorem usedIds_snoc : usedIds (endpoints ++ [endpoint]) = usedIds endpoints ++ endpoint.id?.toList := by
  rw [usedIds, List.filterMap_append, List.filterMap_cons]
  cases endpoint.id? <;> rfl

theorem repeats_snoc : repeats config (endpoints ++ [endpoint]) =
    repeats config endpoints ++ endpoint.checkUnique config (usedIds endpoints).reverse := by
  have last : checkFrom config (usedIds endpoints).reverse [endpoint] =
      endpoint.check config (usedIds endpoints).reverse := List.append_nil _
  have split := checkFrom_append config [] endpoints [endpoint]
  rw [List.append_nil] at split
  rw [repeats, split, List.filter_append]
  exact congrArg _ ((congrArg _ last).trans (filter_isRepeat_check config _ endpoint))

theorem repeats_of_known (unique : config.enabled .operationIdUnique) (own : endpoint.id? = some id)
    (known : id ∈ usedIds endpoints) : repeats config (endpoints ++ [endpoint]) =
      repeats config endpoints ++ [.repeatedOperationId id endpoint.path endpoint.method] := by
  rw [repeats_snoc, checkUnique_of_id own, if_pos ⟨unique, List.mem_reverse.mpr known⟩]

theorem repeats_of_new (new : ∀ id, endpoint.id? = some id → id ∉ usedIds endpoints) :
    repeats config (endpoints ++ [endpoint]) = repeats config endpoints := by
  have silent : endpoint.checkUnique config (usedIds endpoints).reverse = [] := by
    apply checkUnique_eq_nil.mpr
    intro _ id own known
    exact new id own (List.mem_reverse.mp known)
  rw [repeats_snoc, silent, List.append_nil]

private theorem repeatsInOrder_repeats (unique : config.enabled .operationIdUnique) (endpoints : List Endpoint) :
    RepeatsInOrder endpoints (repeats config endpoints) := by
  induction endpoints using List.reverseRecOn with
  | nil =>
    refine ⟨[], List.Pairwise.nil, fun position => ?_, .nil⟩
    constructor
    · intro impossible
      cases impossible
    · rintro ⟨id, repeats⟩
      exact absurd repeats.lt_length (Nat.not_lt_zero position)
  | append_singleton endpoints endpoint ih =>
    by_cases told : ∃ id, endpoint.id? = some id ∧ id ∈ usedIds endpoints
    · obtain ⟨id, own, known⟩ := told
      rw [repeats_of_known unique own known]
      exact ih.known own known
    · have new : ∀ id, endpoint.id? = some id → id ∉ usedIds endpoints :=
        fun id own known => told ⟨id, own, known⟩
      rw [repeats_of_new new]
      exact ih.fresh new

/-- Every operation with an id either is the first one with it or is told. -/
theorem length_repeats (unique : config.enabled .operationIdUnique) (endpoints : List Endpoint) :
    (repeats config endpoints).length + (usedIds endpoints).toFinset.card = (usedIds endpoints).length := by
  induction endpoints using List.reverseRecOn with
  | nil => rfl
  | append_singleton endpoints endpoint ih =>
    rw [usedIds_snoc]
    cases own : endpoint.id? with
    | none =>
      rw [repeats_of_new fun id some => absurd (own.symm.trans some) (Option.some_ne_none id).symm]
      rw [Option.toList_none, List.append_nil]
      exact ih
    | some id =>
      rw [Option.toList_some, List.toFinset_append, List.length_append]
      by_cases known : id ∈ usedIds endpoints
      · have kept : (usedIds endpoints).toFinset ∪ [id].toFinset = (usedIds endpoints).toFinset := by
          simpa using known
        rw [repeats_of_known unique own known, kept, List.length_append]
        simp only [List.length_singleton]
        omega
      · have grown : ((usedIds endpoints).toFinset ∪ [id].toFinset).card = (usedIds endpoints).toFinset.card + 1 := by
          rw [List.toFinset_cons, List.toFinset_nil, insert_empty_eq, Finset.union_comm, ← Finset.insert_eq]
          exact Finset.card_insert_of_notMem (by simpa using known)
        rw [repeats_of_new fun other same => Option.some.inj (own.symm.trans same) ▸ known, grown]
        simp only [List.length_singleton]
        omega

private theorem repeats_eq_nil_iff (unique : config.enabled .operationIdUnique) (endpoints : List Endpoint) :
    repeats config endpoints = [] ↔ (usedIds endpoints).Nodup := by
  have counted := length_repeats unique endpoints
  rw [← List.length_eq_zero_iff]
  constructor
  · intro none
    rw [none, Nat.zero_add, List.card_toFinset] at counted
    exact List.dedup_eq_self.mp ((List.dedup_sublist _).eq_of_length counted)
  · intro distinct
    rw [List.toFinset_card_of_nodup distinct] at counted
    omega

end Endpoint

open Endpoint in
/-- While ids have to be unique, the pass over the operations tells an operation that its id is not unique exactly if an
operation before it has the id too, in the order of the operations. So it tells as many as there are operations with an
id beyond the number of different ids, and none if and only if all ids differ. -/
theorem operations_report_repeats (subject : Subject) (unique : subject.config.enabled .operationIdUnique)
    (sink : Sink) : ∃ added, (Pass.operations.run subject sink).violations = sink.violations ++ added ∧
      RepeatsInOrder subject.document.endpoints (added.filter (·.isRepeat)) ∧
      (added.filter (·.isRepeat)).length + (usedIds subject.document.endpoints).toFinset.card =
        (usedIds subject.document.endpoints).length ∧
      (added.filter (·.isRepeat) = [] ↔ (usedIds subject.document.endpoints).Nodup) := by
  have enabled : Pass.operations.isEnabled subject.config :=
    List.any_eq_true.mpr ⟨.operationIdUnique, by decide, unique⟩
  refine ⟨checkOperations subject.config subject.document, ?_, ?_, ?_, ?_⟩
  · rw [Pass.violations_run, Pass.contribution, if_pos enabled]
    rfl
  · exact repeatsInOrder_repeats unique _
  · exact length_repeats unique _
  · exact repeats_eq_nil_iff unique _

/-- One id under two methods of a path and again under another path, with an empty and an absent id in between. -/
def Document.crowded : Document where
  info := some {}
  paths := [("/a", {
      get := some { operationId := some "x" }
      put := some { operationId := some "" }
      post := some { operationId := some "x" } }),
    ("/b", {
      get := some {}
      delete := some { operationId := some "x" } })]

theorem crowded_repeats : ({} : Config).enabled .operationIdUnique ∧
    ∃ added, (Pass.operations.run ⟨.crowded, {}, {}⟩ {}).violations = added ∧
      added.filter (·.isRepeat) = [.repeatedOperationId "x" "/a" .post, .repeatedOperationId "x" "/b" .delete] ∧
      Endpoint.RepeatsInOrder Document.crowded.endpoints (added.filter (·.isRepeat)) ∧
      (added.filter (·.isRepeat)).length + 1 = 3 := by
  obtain ⟨added, run, inOrder, counted, _⟩ := operations_report_repeats ⟨.crowded, {}, {}⟩ rfl {}
  have told : added = (Pass.operations.run ⟨.crowded, {}, {}⟩ {}).violations := run.symm
  refine ⟨rfl, added, run, ?_, inOrder, counted⟩
  rw [told]
  decide

end ApiStyle
