import ApiStyle.Proofs.Attribution
import ApiStyle.Proofs.Compliance
import Mathlib.Data.List.Count

/-! How often a fault is reported. Maps have distinct keys, so path and method name one operation, and the names of
a schema and of a property name one property. The main statement is that whatever is missing there is reported once,
at its own place, and that nothing is reported where nothing is missing. -/

namespace ApiStyle

variable {α β κ : Type}

theorem countP_of_nodup_keys [DecidableEq κ] {items : List α} {key : α → κ} (distinct : (items.map key).Nodup)
    (test : α → Bool) (target : κ) : items.countP (fun item => decide (key item = target) && test item) =
      if ∃ item ∈ items, key item = target ∧ test item then 1 else 0 := by
  have kept : ((items.filter test).map key).Nodup := distinct.sublist (List.filter_sublist.map key)
  have found : target ∈ (items.filter test).map key ↔ ∃ item ∈ items, key item = target ∧ test item := by
    simp only [List.mem_map, List.mem_filter]
    constructor
    · rintro ⟨item, ⟨member, passes⟩, same⟩
      exact ⟨item, member, same, passes⟩
    · rintro ⟨item, member, same, passes⟩
      exact ⟨item, ⟨member, passes⟩, same⟩
  calc items.countP (fun item => decide (key item = target) && test item)
    _ = (items.filter test).countP (fun item => decide (key item = target)) := (List.countP_filter ..).symm
    _ = ((items.filter test).map key).count target := by
      rw [List.count, List.countP_map]
      rfl
    _ = if target ∈ (items.filter test).map key then 1 else 0 := kept.count
    _ = if ∃ item ∈ items, key item = target ∧ test item then 1 else 0 := if_congr found rfl rfl

theorem nodup_pairs {table : List (String × β)} (inside : β → List κ) (distinct : (table.map Prod.fst).Nodup)
    (nested : ∀ entry ∈ table, (inside entry.2).Nodup) :
    (table.flatMap fun entry => (inside entry.2).map (entry.1, ·)).Nodup := by
  refine List.nodup_flatMap.mpr ⟨?_, ?_⟩
  · intro entry member
    exact (nested entry member).map fun first second same => (Prod.mk.inj same).2
  · refine (List.pairwise_map.mp distinct).imp fun {first second} differs pair here there => ?_
    obtain ⟨_, _, rfl⟩ := List.mem_map.mp here
    obtain ⟨_, _, same⟩ := List.mem_map.mp there
    exact differs (Prod.mk.inj same).1.symm

/-- What every operation has to state. -/
inductive Detail where
  | operationId | description | summary | tags
deriving DecidableEq, Repr

namespace Detail

def name : Detail → String
  | operationId => "operationId"
  | description => "description"
  | summary => "summary"
  | tags => "tags"

/-- The toggle of the rule that asks for a detail. -/
def toggle : Detail → Toggle
  | operationId => .operationId
  | description => .operationDescription
  | summary => .operationSummary
  | tags => .operationTag

private theorem name_injective {first second : Detail} (same : first.name = second.name) : first = second := by
  cases first <;> cases second <;> first | rfl | exact absurd same (by decide)

end Detail

/-- A detail is absent or empty. -/
def Operation.Lacks (operation : Operation) : Detail → Prop
  | .operationId => operation.operationId = none ∨ operation.operationId = some ""
  | .description => operation.description = none ∨ operation.description = some ""
  | .summary => operation.summary = none ∨ operation.summary = some ""
  | .tags => operation.tags = none ∨ operation.tags = some []

instance (operation : Operation) (detail : Detail) : Decidable (operation.Lacks detail) :=
  match detail with
  | .operationId | .description | .summary | .tags => inferInstanceAs (Decidable (_ ∨ _))

/-- What an operation is checked for. -/
inductive Check where
  | missing (detail : Detail)
  | repeated
deriving DecidableEq, Repr

namespace Check

/-- The checks in the order in which they are made. -/
def all : List Check :=
  [missing .operationId, repeated, missing .description, missing .summary, missing .tags]

def toggle : Check → Toggle
  | missing detail => detail.toggle
  | repeated => .operationIdUnique

private theorem mem_all (check : Check) : check ∈ all := by
  cases check with
  | missing detail => cases detail <;> decide
  | repeated => decide

theorem nodup_all : all.Nodup := by decide

end Check

private theorem hasText_eq_false {text : Option String} : hasText text = false ↔ text = none ∨ text = some "" := by
  cases text with
  | none => simp [hasText]
  | some words => simp [hasText]

namespace Endpoint

def lack (endpoint : Endpoint) : Detail → Violation
  | .tags => .missingOperationItems endpoint.path endpoint.method Detail.tags.name
  | detail => endpoint.missing detail.name

/-- What a check finds, given the ids seen before. -/
def finding? (seen : List String) (endpoint : Endpoint) : Check → Option Violation
  | .missing detail => if endpoint.operation.Lacks detail then some (endpoint.lack detail) else none
  | .repeated => (endpoint.id?.filter (· ∈ seen)).map (.repeatedOperationId · endpoint.path endpoint.method)

private theorem isNone_id? {endpoint : Endpoint} :
    endpoint.id?.isNone = true ↔ endpoint.operation.Lacks .operationId := by
  change _ ↔ endpoint.operation.operationId = none ∨ endpoint.operation.operationId = some ""
  unfold id?
  cases endpoint.operation.operationId with
  | none => simp
  | some id => by_cases empty : id = "" <;> simp [Option.filter_some, empty]

private theorem all_isEmpty {endpoint : Endpoint} :
    endpoint.operation.tags.all List.isEmpty = true ↔ endpoint.operation.Lacks .tags := by
  change _ ↔ endpoint.operation.tags = none ∨ endpoint.operation.tags = some []
  cases endpoint.operation.tags with
  | none => simp
  | some tags => simp

private theorem toList_if {reported : Prop} [Decidable reported] {found : Option Violation} :
    (if reported then found else none).toList = if reported then found.toList else [] := by
  split <;> rfl

private theorem if_absent {endpoint : Endpoint} {seen : List String} {detail : Detail} {absent : Bool}
    (lacks : absent = true ↔ endpoint.operation.Lacks detail) :
    (if absent then [endpoint.lack detail] else []) = (endpoint.finding? seen (.missing detail)).toList := by
  simp only [finding?, ← lacks, toList_if, Option.toList_some]

private theorem unless_stated {endpoint : Endpoint} {seen : List String} {detail : Detail} {stated : Bool}
    (lacks : stated = false ↔ endpoint.operation.Lacks detail) :
    (if stated then [] else [endpoint.lack detail]) = (endpoint.finding? seen (.missing detail)).toList := by
  have absent : (!stated) = true ↔ endpoint.operation.Lacks detail := by simpa using lacks
  rw [← if_absent absent]
  cases stated <;> rfl

theorem check_eq_filterMap (config : Config) (seen : List String) (endpoint : Endpoint) :
    endpoint.check config seen =
      Check.all.filterMap fun check => if config.enabled check.toggle then endpoint.finding? seen check else none := by
  have operationId : (if endpoint.id?.isNone then [endpoint.missing "operationId"] else []) =
      (endpoint.finding? seen (.missing .operationId)).toList := @if_absent endpoint seen .operationId _ isNone_id?
  have repeated : (endpoint.id?.filter (· ∈ seen)).toList.map
      (.repeatedOperationId · endpoint.path endpoint.method) = (endpoint.finding? seen .repeated).toList :=
    Option.toList_map.symm
  have description : (if hasText endpoint.operation.description then [] else [endpoint.missing "description"]) =
      (endpoint.finding? seen (.missing .description)).toList := @unless_stated endpoint seen .description _ hasText_eq_false
  have summary : (if hasText endpoint.operation.summary then [] else [endpoint.missing "summary"]) =
      (endpoint.finding? seen (.missing .summary)).toList := @unless_stated endpoint seen .summary _ hasText_eq_false
  have tags : (if endpoint.operation.tags.all List.isEmpty then
      [.missingOperationItems endpoint.path endpoint.method "tags"] else []) =
      (endpoint.finding? seen (.missing .tags)).toList := @if_absent endpoint seen .tags _ all_isEmpty
  rw [check_eq, operationId, repeated, description, summary, tags, List.filterMap_eq_flatMap_toList]
  simp only [Check.all, List.flatMap_cons, List.flatMap_nil, List.append_nil, List.append_assoc, toList_if]
  rfl

end Endpoint

namespace Violation

/-- Whether a violation reports a detail of the operation that a path has for a method. -/
def isMissing (path : String) (method : Method) (detail : Detail) : Violation → Bool
  | operation field _ given by_ => field = detail.name ∧ (given, by_) = (path, method)
  | _ => false

/-- Whether a violation reports a property of a named schema. -/
def isOfProperty (schema property : String) : Violation → Bool
  | model _ _ given name => (given, name) = (schema, property)
  | _ => false

private theorem pass_of_isMissing {path : String} {method : Method} {detail : Detail} {violation : Violation}
    (missing : violation.isMissing path method detail) : violation.pass = .operations := by
  cases violation with
  | operation field message given by_ => rfl
  | _ => cases missing

private theorem pass_of_isOfProperty {schema property : String} {violation : Violation}
    (reported : violation.isOfProperty schema property) : violation.pass = .models := by
  cases violation with
  | model field message given name => rfl
  | _ => cases reported

end Violation

namespace Endpoint

open Violation (isMissing)

/-- The place of an endpoint in the document. -/
def key (endpoint : Endpoint) : String × Method := (endpoint.path, endpoint.method)

/-- An endpoint lacks what a rule that is on asks of it. -/
def Owes (config : Config) (detail : Detail) (endpoint : Endpoint) : Prop :=
  config.enabled detail.toggle ∧ endpoint.operation.Lacks detail

instance (config : Config) (detail : Detail) (endpoint : Endpoint) : Decidable (endpoint.Owes config detail) :=
  inferInstanceAs (Decidable (_ ∧ _))

private theorem isMissing_lack (endpoint : Endpoint) (path : String) (method : Method) (detail other : Detail) :
    isMissing path method detail (endpoint.lack other) = decide (other = detail ∧ endpoint.key = (path, method)) := by
  have named : other.name = detail.name ↔ other = detail := ⟨Detail.name_injective, congrArg Detail.name⟩
  have reported : isMissing path method detail (endpoint.lack other) =
      decide (other.name = detail.name ∧ endpoint.key = (path, method)) := by
    cases other <;> rfl
  simp only [reported, named]

private theorem getD_map_eq_any (found : Option α) (test : α → Bool) :
    (found.map test).getD false = found.any test := by
  cases found <;> rfl

theorem reports_iff {seen : List String} {endpoint : Endpoint} {path : String} {method : Method} {detail : Detail}
    {check : Check} : (endpoint.finding? seen check).any (isMissing path method detail) = true ↔
      check = .missing detail ∧ endpoint.key = (path, method) ∧ endpoint.operation.Lacks detail := by
  cases check with
  | repeated =>
    have silent : ∀ id, isMissing path method detail (.repeatedOperationId id endpoint.path endpoint.method) = false :=
      fun _ => rfl
    have unreported : (endpoint.finding? seen .repeated).any (isMissing path method detail) = false := by
      rw [finding?, Option.any_map]
      cases endpoint.id?.filter (· ∈ seen) with
      | none => rfl
      | some id => exact silent id
    simp only [unreported, Bool.false_eq_true, reduceCtorEq, false_and]
  | missing other =>
    by_cases lacks : endpoint.operation.Lacks other
    · simp only [finding?, lacks, if_true, Option.any_some, isMissing_lack, decide_eq_true_eq, Check.missing.injEq]
      constructor
      · rintro ⟨rfl, here⟩
        exact ⟨rfl, here, lacks⟩
      · rintro ⟨same, here, _⟩
        exact ⟨same, here⟩
    · simp only [finding?, lacks, if_false, Option.any_none, Bool.false_eq_true, Check.missing.injEq, false_iff]
      rintro ⟨rfl, _, lacking⟩
      exact lacks lacking

/-- An endpoint reports a detail once if it owes it and stands at the place asked for, and else not at all. -/
theorem countP_check (config : Config) (seen : List String) (endpoint : Endpoint) (path : String) (method : Method)
    (detail : Detail) : (endpoint.check config seen).countP (isMissing path method detail) =
      if endpoint.key = (path, method) ∧ endpoint.Owes config detail then 1 else 0 := by
  have told : ∀ check ∈ Check.all, ((if config.enabled check.toggle then endpoint.finding? seen check else none).map
      (isMissing path method detail)).getD false = true ↔
        (decide (id check = .missing detail) && decide (endpoint.key = (path, method) ∧ endpoint.Owes config detail)) =
          true := by
    intro check _
    simp only [getD_map_eq_any, id_eq, Bool.and_eq_true, decide_eq_true_eq]
    by_cases on : config.enabled check.toggle
    · rw [if_pos on, reports_iff]
      constructor
      · rintro ⟨rfl, here, lacks⟩
        exact ⟨rfl, here, on, lacks⟩
      · rintro ⟨rfl, here, _, lacks⟩
        exact ⟨rfl, here, lacks⟩
    · rw [if_neg on]
      constructor
      · intro impossible
        cases impossible
      · rintro ⟨rfl, _, enabled, _⟩
        exact absurd enabled on
  have once : (Check.all.map id).Nodup := by simpa using Check.nodup_all
  rw [check_eq_filterMap, List.countP_filterMap, List.countP_congr told, countP_of_nodup_keys once]
  refine if_congr ?_ rfl rfl
  simp only [id_eq, decide_eq_true_eq]
  constructor
  · rintro ⟨_, _, _, due⟩
    exact due
  · intro due
    exact ⟨.missing detail, Check.mem_all _, rfl, due⟩

/-- The ids seen before matter for repeated ids alone, so endpoints report what they lack each for itself. -/
theorem countP_checkFrom (config : Config) (seen : List String) (endpoints : List Endpoint) (path : String)
    (method : Method) (detail : Detail) :
    (checkFrom config seen endpoints).countP (isMissing path method detail) =
      endpoints.countP fun endpoint => decide (endpoint.key = (path, method)) && decide (endpoint.Owes config detail) := by
  induction endpoints generalizing seen with
  | nil => rfl
  | cons endpoint rest ih =>
    rw [checkFrom, List.countP_append, countP_check, ih, List.countP_cons, Nat.add_comm]
    simp only [Bool.and_eq_true, decide_eq_true_eq]

end Endpoint

namespace PathItem

private theorem nodup_methods (item : PathItem) : (item.operations.map Prod.fst).Nodup := by
  have labels : item.operations.map Prod.fst =
      Method.all.filterMap fun method => (item.operation? method).map fun _ => method := by
    simp only [operations, List.map_filterMap, Option.map_map, Function.comp_def]
  rw [labels]
  refine Method.nodup_all.filterMap fun first second label here there => ?_
  obtain ⟨_, _, rfl⟩ := Option.map_eq_some_iff.mp here
  obtain ⟨_, _, same⟩ := Option.map_eq_some_iff.mp there
  exact same.symm

end PathItem

namespace Document

/-- The maps of a document in which findings have their places have each key once. -/
structure HasDistinctKeys (document : Document) : Prop where
  paths : (document.paths.map Prod.fst).Nodup
  schemas : (document.schemas.map Prod.fst).Nodup
  properties : ∀ schema ∈ document.schemas, (schema.2.properties.map Prod.fst).Nodup

/-- The operation that a path has for a method. -/
def operation? (document : Document) (path : String) (method : Method) : Option Operation :=
  (document.paths.lookup path).bind (·.operation? method)

/-- The property of a named schema. -/
def property? (document : Document) (schema property : String) : Option Schema :=
  (document.schemas.lookup schema).bind (·.properties.lookup property)

/-- The properties of the named schemas, under both names. -/
def namedProperties (document : Document) : List ((String × String) × Schema) :=
  document.schemas.flatMap fun entry =>
    entry.2.properties.map fun property => ((entry.1, property.1), property.2)

variable {document : Document}

private theorem operation?_eq_some (distinct : document.HasDistinctKeys) {path : String} {method : Method}
    {operation : Operation} : document.operation? path method = some operation ↔
      ⟨path, method, operation⟩ ∈ document.endpoints := by
  rw [operation?, Option.bind_eq_some_iff, mem_endpoints]
  simp only [Table.lookup_eq_some_iff distinct.paths]

private theorem property?_eq_some (distinct : document.HasDistinctKeys) {schema property : String} {content : Schema} :
    document.property? schema property = some content ↔
      ((schema, property), content) ∈ document.namedProperties := by
  rw [property?, Option.bind_eq_some_iff]
  simp only [namedProperties, List.mem_flatMap, List.mem_map, Prod.mk.injEq, Table.lookup_eq_some_iff distinct.schemas]
  constructor
  · rintro ⟨declared, member, found⟩
    exact ⟨(schema, declared), member, (property, content), Table.mem_of_lookup found, ⟨rfl, rfl⟩, rfl⟩
  · rintro ⟨⟨name, declared⟩, member, ⟨key, value⟩, inside, ⟨rfl, rfl⟩, rfl⟩
    exact ⟨declared, member, (Table.lookup_eq_some_iff (distinct.properties _ member)).mpr inside⟩

private theorem nodup_endpoints (distinct : document.HasDistinctKeys) :
    (document.endpoints.map Endpoint.key).Nodup := by
  have keys : document.endpoints.map Endpoint.key =
      document.paths.flatMap fun entry => (entry.2.operations.map Prod.fst).map (entry.1, ·) := by
    simp only [endpoints, List.map_flatMap, List.map_map]
    rfl
  rw [keys]
  exact nodup_pairs (fun item => item.operations.map Prod.fst) distinct.paths fun entry _ => entry.2.nodup_methods

private theorem nodup_namedProperties (distinct : document.HasDistinctKeys) :
    (document.namedProperties.map Prod.fst).Nodup := by
  have keys : document.namedProperties.map Prod.fst =
      document.schemas.flatMap fun entry => (entry.2.properties.map Prod.fst).map (entry.1, ·) := by
    simp only [namedProperties, List.map_flatMap, List.map_map]
    rfl
  rw [keys]
  exact nodup_pairs (fun schema => schema.properties.map Prod.fst) distinct.schemas distinct.properties

end Document

open Violation (isMissing isOfProperty)

private theorem countP_checkOperations {document : Document} (distinct : document.HasDistinctKeys) (config : Config)
    (path : String) (method : Method) (detail : Detail) :
    (checkOperations config document).countP (isMissing path method detail) =
      if config.enabled detail.toggle ∧ ∃ operation ∈ document.operation? path method, operation.Lacks detail then 1
      else 0 := by
  rw [checkOperations, Endpoint.countP_checkFrom, countP_of_nodup_keys (Document.nodup_endpoints distinct)]
  refine if_congr ?_ rfl rfl
  simp only [decide_eq_true_eq, Option.mem_def, Document.operation?_eq_some distinct]
  constructor
  · rintro ⟨⟨_, _, operation⟩, member, same, on, lacks⟩
    obtain ⟨rfl, rfl⟩ := Prod.mk.inj same
    exact ⟨on, operation, member, lacks⟩
  · rintro ⟨on, operation, member, lacks⟩
    exact ⟨⟨path, method, operation⟩, member, rfl, on, lacks⟩

private theorem checkModels_eq (document : Document) : checkModels document =
    document.namedProperties.filterMap fun (key, content) =>
      if content.lacksExample then some (.missingModelAttribute key.1 key.2 "example") else none := by
  simp only [checkModels, checkModel, Document.namedProperties, List.filterMap_flatMap, List.filterMap_map]
  rfl

private theorem Schema.lacksExample_iff {content : Schema} :
    content.lacksExample = true ↔ content.reference = none ∧ content.sample = none := by
  simp [lacksExample, isReference]

private theorem countP_checkModels {document : Document} (distinct : document.HasDistinctKeys)
    (schema property : String) :
    (checkModels document).countP (isOfProperty schema property) =
      if ∃ content ∈ document.property? schema property, content.reference = none ∧ content.sample = none then 1
      else 0 := by
  have told : ∀ entry ∈ document.namedProperties, ((if entry.2.lacksExample then
      some (Violation.missingModelAttribute entry.1.1 entry.1.2 "example") else none).map
        (isOfProperty schema property)).getD false = true ↔
          (decide (entry.1 = (schema, property)) && entry.2.lacksExample) = true := by
    intro entry _
    cases entry.2.lacksExample with
    | true => simp [isOfProperty, Violation.missingModelAttribute]
    | false => simp
  rw [checkModels_eq, List.countP_filterMap, List.countP_congr told,
    countP_of_nodup_keys (Document.nodup_namedProperties distinct)]
  refine if_congr ?_ rfl rfl
  simp only [Option.mem_def, Document.property?_eq_some distinct, Schema.lacksExample_iff]
  constructor
  · rintro ⟨⟨_, content⟩, member, rfl, lacks⟩
    exact ⟨content, member, lacks⟩
  · rintro ⟨content, member, lacks⟩
    exact ⟨((schema, property), content), member, rfl, lacks⟩

namespace Pass

variable {subject : Subject} {test : Violation → Bool}

theorem countP_contributions {pass : Pass} (told : ∀ violation, test violation → violation.pass = pass) :
    (all.flatMap (·.contribution subject)).countP test = (pass.contribution subject).countP test := by
  have silent : ∀ other : Pass, other ≠ pass → (other.contribution subject).countP test = 0 := by
    intro other differs
    refine List.countP_eq_zero.mpr fun violation added passes => differs ?_
    exact (pass_of_contribution added).symm.trans (told violation passes)
  cases pass with
  | _ => simp [all, List.countP_append, silent]

theorem contribution_operations (document : Document) (info : Info) (config : Config) :
    operations.contribution ⟨document, info, config⟩ = checkOperations config document := by
  by_cases enabled : operations.isEnabled config
  · exact if_pos enabled
  · rw [contribution, if_neg enabled, operations_idle enabled]

private theorem contribution_models (document : Document) (info : Info) (config : Config) :
    models.contribution ⟨document, info, config⟩ =
      if config.enabled .propertyExample then checkModels document else [] := by
  simp [contribution, isEnabled, effective, findings]

end Pass

/-- Every detail that an operation lacks and every example that a property lacks is reported once if its rule is on,
and otherwise, or at any other place, not at all. -/
theorem validate?_reports_once {document : Document} {info : Info} (present : document.info = some info)
    (distinct : document.HasDistinctKeys) (config : Config) :
    ∃ violations, ({} : Validator).validate? document config = some violations ∧
      (∀ path method detail, violations.countP (isMissing path method detail) =
        if config.enabled detail.toggle ∧ ∃ operation ∈ document.operation? path method, operation.Lacks detail then 1
        else 0) ∧
      ∀ schema property, violations.countP (isOfProperty schema property) =
        if config.enabled .propertyExample ∧ ∃ content ∈ document.property? schema property,
          content.reference = none ∧ content.sample = none then 1
        else 0 := by
  refine ⟨Pass.all.flatMap (·.contribution ⟨document, info, config⟩), ?_, ?_, ?_⟩
  · exact Validator.validate?_of_info present config Pass.all
  · intro path method detail
    rw [Pass.countP_contributions fun violation => Violation.pass_of_isMissing, Pass.contribution_operations,
      countP_checkOperations distinct]
  · intro schema property
    rw [Pass.countP_contributions fun violation => Violation.pass_of_isOfProperty, Pass.contribution_models]
    by_cases on : config.enabled .propertyExample
    · rw [if_pos on, countP_checkModels distinct]
      simp only [on, true_and]
    · simp only [on, Bool.false_eq_true, false_and, if_false, List.countP_nil]

theorem rough_reports_once : Document.rough.HasDistinctKeys ∧
    ∃ violations, ({} : Validator).validate? .rough {} = some violations ∧
      violations.countP (isMissing "/Pets" .post .tags) = 1 ∧
      violations.countP (isMissing "/Pets" .post .operationId) = 0 ∧
      violations.countP (isMissing "/Pets" .put .tags) = 0 ∧
      violations.countP (isOfProperty "Pet" "age") = 1 ∧ violations.countP (isOfProperty "Pet" "name") = 0 := by
  have distinct : Document.rough.HasDistinctKeys := ⟨by decide, by decide, by decide⟩
  obtain ⟨violations, validated, operations, properties⟩ := validate?_reports_once rfl distinct {}
  refine ⟨distinct, violations, validated, ?_, ?_, ?_, ?_, ?_⟩
  · exact (operations "/Pets" .post .tags).trans (by decide)
  · exact (operations "/Pets" .post .operationId).trans (by decide)
  · exact (operations "/Pets" .put .tags).trans (by decide)
  · exact (properties "Pet" "age").trans (by decide)
  · exact (properties "Pet" "name").trans (by decide)

end ApiStyle
