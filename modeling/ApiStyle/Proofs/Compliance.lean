import ApiStyle.Proofs.Validation
import Mathlib.Data.List.Nodup
import Mathlib.Data.List.Pairwise

/-! Compliance said without passes, sinks and seen ids: what every part of a document has to carry, each demand
only if its toggle is on. The main statement is that a run reports nothing exactly on the documents that comply,
so that a clean run neither missed a fault nor could have invented one. -/

namespace ApiStyle

/-- A text that is present and not empty. -/
def Stated (text : Option String) : Prop := ∃ words, text = some words ∧ words ≠ ""

structure Info.Complies (config : Config) (info : Info) : Prop where
  license : config.enabled .infoLicense →
    ∃ license, info.license = some license ∧ (Stated license.name ∨ Stated license.url)
  contact : config.enabled .infoContact →
    ∃ contact, info.contact = some contact ∧ (Stated contact.name ∨ Stated contact.url ∨ Stated contact.email)
  description : config.enabled .infoDescription → Stated info.description

structure Server.Complies (config : Config) (server : Server) : Prop where
  declared : ∀ name, .placeholder name ∈ server.pieces →
    ∃ declared, server.bindings.lookup (String.ofList name) = some declared
  formed : server.resolved = "/" ∨ Url.isValid config.extraDomains server.resolved

structure Operation.Complies (config : Config) (operation : Operation) : Prop where
  operationId : config.enabled .operationId → Stated operation.operationId
  description : config.enabled .operationDescription → Stated operation.description
  summary : config.enabled .operationSummary → Stated operation.summary
  tags : config.enabled .operationTag → ∃ tags, operation.tags = some tags ∧ tags ≠ []

/-- The name of a parameter is checked unless the parameter is a reference or an exempt header. -/
structure Parameter.NameIsDue (config : Config) (parameter : Parameter) (name : String) : Prop where
  named : parameter.name = some name
  notReference : parameter.reference = none
  notExempt : ¬ (config.enabled .ignoreCustomHeader ∧ parameter.location = some .header ∧
    "X-".toList <+: name.toList)

/-- A segment of a path that stands for itself: it is not empty, and it does not reach from an opening to a
closing brace. -/
structure IsLiteralSegment (path segment : String) : Prop where
  between : segment.toList ∈ path.toList.splitOn '/'
  nonempty : segment ≠ ""
  literal : ∀ inner, segment.toList ≠ '\x7b' :: inner ++ ['\x7d']

namespace Document

/-- The operation that the path with the given index has for a method. -/
def operationAt? (document : Document) (index : Nat) (method : Method) : Option Operation :=
  document.paths[index]?.bind fun (_, item) => item.operation? method

/-- No id that is not empty stands at two operations. -/
def IdsAreUnique (document : Document) : Prop :=
  ∀ first second method other operation repeated id,
    document.operationAt? first method = some operation → document.operationAt? second other = some repeated →
    operation.operationId = some id → repeated.operationId = some id → id ≠ "" →
    first = second ∧ method = other

structure NamesComply (config : Config) (document : Document) : Prop where
  properties : ∀ name schema, (name, schema) ∈ document.schemas →
    ∀ property content, (property, content) ∈ schema.properties → config.propertyNaming.accepts property
  parameters : ∀ index method operation, document.operationAt? index method = some operation →
    ∀ parameter ∈ operation.parameters, ∀ name, parameter.NameIsDue config name →
      config.parameterNaming.accepts name
  segments : ∀ path item, (path, item) ∈ document.paths →
    ∀ segment, IsLiteralSegment path segment → config.pathNaming.accepts segment

structure Complies (config : Config) (document : Document) : Prop where
  info : ∃ info, document.info = some info ∧ info.Complies config
  servers : config.enabled .serverInfo → ∀ server ∈ document.servers, server.Complies config
  operations : ∀ index method operation, document.operationAt? index method = some operation →
    operation.Complies config
  uniqueIds : config.enabled .operationIdUnique → document.IdsAreUnique
  examples : config.enabled .propertyExample → ∀ name schema, (name, schema) ∈ document.schemas →
    ∀ property content, (property, content) ∈ schema.properties →
      (∃ target, content.reference = some target) ∨ ∃ sample, content.sample = some sample
  names : config.enabled .naming → document.NamesComply config

end Document

private theorem unless_eq_nil {holds : Bool} {violation : Violation} :
    (if holds then [] else [violation]) = [] ↔ holds = true := by
  cases holds <;> simp

theorem hasText_iff {text : Option String} : hasText text = true ↔ Stated text := by
  simp [hasText, Stated, Option.any_eq_true]

namespace Info

private theorem checkLicense_eq_nil {info : Info} : info.checkLicense = [] ↔
    ∃ license, info.license = some license ∧ (Stated license.name ∨ Stated license.url) := by
  unfold checkLicense
  cases info.license with
  | none => simp
  | some license => simp only [unless_eq_nil, Bool.or_eq_true, hasText_iff, Option.some.injEq, exists_eq_left']

private theorem checkDescription_eq_nil {info : Info} : info.checkDescription = [] ↔ Stated info.description := by
  rw [checkDescription, unless_eq_nil, hasText_iff]

private theorem checkContact_eq_nil {info : Info} : info.checkContact = [] ↔
    ∃ contact, info.contact = some contact ∧
      (Stated contact.name ∨ Stated contact.url ∨ Stated contact.email) := by
  unfold checkContact
  cases info.contact with
  | none => simp
  | some contact =>
    simp only [unless_eq_nil, Bool.or_eq_true, hasText_iff, or_assoc, Option.some.injEq, exists_eq_left']

private theorem check_eq_nil {config : Config} {info : Info} : info.check config = [] ↔ info.Complies config := by
  simp only [check, List.append_eq_nil_iff, ite_eq_right_iff, checkLicense_eq_nil, checkDescription_eq_nil,
    checkContact_eq_nil]
  constructor
  · rintro ⟨⟨license, description⟩, contact⟩
    exact ⟨license, contact, description⟩
  · rintro ⟨license, contact, description⟩
    exact ⟨⟨license, description⟩, contact⟩

end Info

namespace Server

theorem undeclared_eq_nil {server : Server} : server.undeclared = [] ↔
    ∀ name, .placeholder name ∈ server.pieces →
      ∃ declared, server.bindings.lookup (String.ofList name) = some declared := by
  simp only [undeclared, List.filterMap_eq_nil_iff, default?, Option.isSome_map]
  constructor
  · intro absent name member
    simpa [Option.isSome_iff_exists] using absent _ member
  · intro declared piece member
    cases piece with
    | literal _ => rfl
    | placeholder name => simpa [Option.isSome_iff_exists] using declared name member

private theorem check_eq_nil {config : Config} {server : Server} :
    server.check config = [] ↔ server.Complies config := by
  unfold check
  split
  next complete =>
    simp only [ite_eq_left_iff, reduceCtorEq, imp_false, not_not, Bool.or_eq_true, decide_eq_true_eq]
    exact ⟨fun formed => ⟨undeclared_eq_nil.mp complete, formed⟩, Complies.formed⟩
  next incomplete =>
    rw [List.map_eq_nil_iff]
    exact ⟨fun complete => absurd complete incomplete, fun complies => undeclared_eq_nil.mpr complies.declared⟩

end Server

private theorem checkServers_eq_nil {config : Config} {document : Document} :
    checkServers config document = [] ↔ ∀ server ∈ document.servers, server.Complies config := by
  simp only [checkServers, List.flatMap_eq_nil_iff, Server.check_eq_nil]

namespace Endpoint

theorem id?_eq_some {endpoint : Endpoint} {id : String} :
    endpoint.id? = some id ↔ endpoint.operation.operationId = some id ∧ id ≠ "" := by
  simp [id?, Option.filter_eq_some_iff]

private theorem id?_eq_none {endpoint : Endpoint} : endpoint.id? = none ↔ ¬ Stated endpoint.operation.operationId := by
  simp only [Option.eq_none_iff_forall_ne_some, ne_eq, id?_eq_some, Stated, not_exists]

private theorem checkId_eq_nil {config : Config} {endpoint : Endpoint} : endpoint.checkId config = [] ↔
    (config.enabled .operationId → Stated endpoint.operation.operationId) := by
  simp [checkId, id?_eq_none]

theorem checkUnique_eq_nil {config : Config} {seen : List String} {endpoint : Endpoint} :
    endpoint.checkUnique config seen = [] ↔
      (config.enabled .operationIdUnique → ∀ id, endpoint.id? = some id → id ∉ seen) := by
  unfold checkUnique
  cases endpoint.id? with
  | none => simp
  | some id => simp

private theorem checkTexts_eq_nil {config : Config} {endpoint : Endpoint} : endpoint.checkTexts config = [] ↔
    (config.enabled .operationDescription → Stated endpoint.operation.description) ∧
    (config.enabled .operationSummary → Stated endpoint.operation.summary) ∧
    (config.enabled .operationTag → ∃ tags, endpoint.operation.tags = some tags ∧ tags ≠ []) := by
  have untagged : endpoint.operation.tags.all List.isEmpty = true ↔
      ¬ ∃ tags, endpoint.operation.tags = some tags ∧ tags ≠ [] := by
    cases endpoint.operation.tags <;> simp
  simp [checkTexts, ← hasText_iff, untagged]

private theorem check_eq_nil {config : Config} {seen : List String} {endpoint : Endpoint} :
    endpoint.check config seen = [] ↔ endpoint.operation.Complies config ∧
      (config.enabled .operationIdUnique → ∀ id, endpoint.id? = some id → id ∉ seen) := by
  simp only [check, List.append_eq_nil_iff, checkId_eq_nil, checkUnique_eq_nil, checkTexts_eq_nil]
  constructor
  · rintro ⟨⟨operationId, unique⟩, description, summary, tags⟩
    exact ⟨⟨operationId, description, summary, tags⟩, unique⟩
  · rintro ⟨⟨operationId, description, summary, tags⟩, unique⟩
    exact ⟨⟨operationId, unique⟩, description, summary, tags⟩

/-- The ids seen before are those of the endpoints before, so that nothing is reported exactly if no id comes
twice. -/
theorem checkFrom_eq_nil {config : Config} {seen : List String} {endpoints : List Endpoint} :
    checkFrom config seen endpoints = [] ↔
      (∀ endpoint ∈ endpoints, endpoint.operation.Complies config) ∧
      (config.enabled .operationIdUnique →
        (endpoints.filterMap id?).Nodup ∧ ∀ id ∈ endpoints.filterMap id?, id ∉ seen) := by
  induction endpoints generalizing seen with
  | nil => simp [checkFrom]
  | cons endpoint rest ih =>
    rw [checkFrom, List.append_eq_nil_iff, check_eq_nil, ih, List.forall_mem_cons]
    cases own : endpoint.id? with
    | none => simp [own, and_assoc]
    | some id =>
      simp only [List.filterMap_cons, own, Option.some.injEq, forall_eq', Option.toList_some, List.singleton_append,
        List.nodup_cons, List.mem_cons, not_or, forall_eq_or_imp]
      constructor
      · rintro ⟨⟨complies, fresh⟩, others, unique⟩
        refine ⟨⟨complies, others⟩, fun checked => ?_⟩
        obtain ⟨distinct, unseen⟩ := unique checked
        exact ⟨⟨fun again => (unseen id again).1 rfl, distinct⟩, fresh checked,
          fun other member => (unseen other member).2⟩
      · rintro ⟨⟨complies, others⟩, unique⟩
        refine ⟨⟨complies, fun checked => (unique checked).2.1⟩, others, fun checked => ?_⟩
        obtain ⟨⟨absent, distinct⟩, _, unseen⟩ := unique checked
        exact ⟨distinct, fun other member => ⟨fun same => absent (same ▸ member), unseen other member⟩⟩

end Endpoint

private theorem nodup_filterMap {keys : List κ} {find : κ → Option β} (distinct : keys.Nodup)
    (complete : ∀ key, key ∈ keys) : (keys.filterMap find).Nodup ↔
      ∀ key label value, find key = some value → find label = some value → key = label := by
  rw [List.Nodup, List.pairwise_filterMap]
  constructor
  · intro apart key label value found again
    refine Classical.byContradiction fun different => ?_
    have symmetric : Std.Symm fun key label => ∀ value, find key = some value →
        ∀ other, find label = some other → value ≠ other :=
      ⟨fun key label apart value found other again same => apart other again value found same.symm⟩
    exact apart.forall (complete key) (complete label) different value found value again rfl
  · intro told
    refine distinct.imp fun {key label} different value found other again same => ?_
    subst same
    exact different (told key label value found again)

private theorem pairwise_disjoint {items : List α} {values : α → List β} :
    items.Pairwise (fun item other => (values item).Disjoint (values other)) ↔
      ∀ (first second : Nat) item other value, items[first]? = some item → items[second]? = some other →
        value ∈ values item → value ∈ values other → first = second := by
  rw [List.pairwise_iff_getElem]
  constructor
  · intro apart first second item other value here there found again
    obtain ⟨inside, rfl⟩ := List.getElem?_eq_some_iff.mp here
    obtain ⟨insideToo, rfl⟩ := List.getElem?_eq_some_iff.mp there
    rcases Nat.lt_trichotomy first second with less | same | greater
    · exact absurd again (apart first second inside insideToo less found)
    · exact same
    · exact absurd found (apart second first insideToo inside greater again)
  · intro told first second inside insideToo less value found again
    have same := told first second _ _ value (List.getElem?_eq_getElem inside) (List.getElem?_eq_getElem insideToo)
      found again
    exact Nat.ne_of_lt less same

private theorem nodup_found {items : List α} {keys : List κ} {find : α → κ → Option β} (distinct : keys.Nodup)
    (complete : ∀ key, key ∈ keys) :
    (items.flatMap fun item => keys.filterMap (find item)).Nodup ↔
      ∀ (first second : Nat) item other key label value, items[first]? = some item → items[second]? = some other →
        find item key = some value → find other label = some value → first = second ∧ key = label := by
  have found_iff (item : α) (value : β) : value ∈ keys.filterMap (find item) ↔ ∃ key, find item key = some value := by
    simp [List.mem_filterMap, complete]
  refine List.nodup_flatMap.trans ?_
  simp only [nodup_filterMap distinct complete]
  refine (and_congr_right fun _ => pairwise_disjoint).trans ?_
  simp only [found_iff]
  constructor
  · rintro ⟨within, across⟩ first second item other key label value here there found again
    have same := across first second item other value here there ⟨key, found⟩ ⟨label, again⟩
    subst same
    obtain rfl : item = other := Option.some.inj (here.symm.trans there)
    exact ⟨rfl, within item (List.mem_of_getElem? here) key label value found again⟩
  · intro told
    constructor
    · intro item member key label value found again
      obtain ⟨index, here⟩ := List.mem_iff_getElem?.mp member
      exact (told index index item item key label value here here found again).2
    · rintro first second item other value here there ⟨key, found⟩ ⟨label, again⟩
      exact (told first second item other key label value here there found again).1

namespace Document

theorem operationAt?_eq_some {document : Document} {index : Nat} {method : Method} {operation : Operation} :
    document.operationAt? index method = some operation ↔
      ∃ path item, document.paths[index]? = some (path, item) ∧ item.operation? method = some operation := by
  simp [operationAt?, Option.bind_eq_some_iff]

theorem mem_endpoints {document : Document} {endpoint : Endpoint} : endpoint ∈ document.endpoints ↔
    ∃ item, (endpoint.path, item) ∈ document.paths ∧ item.operation? endpoint.method = some endpoint.operation := by
  simp only [endpoints, List.mem_flatMap, List.mem_map, Prod.exists]
  constructor
  · rintro ⟨path, item, member, method, operation, present, rfl⟩
    exact ⟨item, member, PathItem.mem_operations.mp present⟩
  · rintro ⟨item, member, present⟩
    exact ⟨_, item, member, _, _, PathItem.mem_operations.mpr present, rfl⟩

private theorem forall_operations {document : Document} {holds : Operation → Prop} :
    (∀ endpoint ∈ document.endpoints, holds endpoint.operation) ↔
      ∀ index method operation, document.operationAt? index method = some operation → holds operation := by
  constructor
  · intro all index method operation present
    obtain ⟨path, item, here, present⟩ := operationAt?_eq_some.mp present
    exact all ⟨path, method, operation⟩ (mem_endpoints.mpr ⟨item, List.mem_of_getElem? here, present⟩)
  · intro all endpoint member
    obtain ⟨item, member, present⟩ := mem_endpoints.mp member
    obtain ⟨index, here⟩ := List.mem_iff_getElem?.mp member
    exact all index endpoint.method endpoint.operation (operationAt?_eq_some.mpr ⟨_, item, here, present⟩)

/-- The id that an item has for a method, unless it is empty. -/
private def idFor? (item : PathItem) (method : Method) : Option String :=
  (item.operation? method).bind fun operation => operation.operationId.filter (· ≠ "")

private theorem idFor?_eq_some {item : PathItem} {method : Method} {id : String} : idFor? item method = some id ↔
    ∃ operation, item.operation? method = some operation ∧ operation.operationId = some id ∧ id ≠ "" := by
  simp [idFor?, Option.bind_eq_some_iff, Option.filter_eq_some_iff]

private theorem ids_eq (document : Document) : document.endpoints.filterMap Endpoint.id? =
    document.paths.flatMap fun (_, item) => Method.all.filterMap (idFor? item) := by
  simp only [endpoints, List.filterMap_flatMap, List.filterMap_map, PathItem.operations, List.filterMap_filterMap]
  congr 1
  funext entry
  obtain ⟨path, item⟩ := entry
  congr 1
  funext method
  simp only [idFor?, Option.bind_map, Function.comp_def, Endpoint.id?]

private theorem nodup_ids_iff {document : Document} :
    (document.endpoints.filterMap Endpoint.id?).Nodup ↔ document.IdsAreUnique := by
  rw [ids_eq, nodup_found Method.nodup_all Method.mem_all]
  simp only [IdsAreUnique, operationAt?_eq_some, idFor?_eq_some]
  constructor
  · rintro told first second method other operation repeated id ⟨path, item, here, present⟩
      ⟨path', item', there, presentToo⟩ named again nonempty
    exact told first second _ _ method other id here there ⟨operation, present, named, nonempty⟩
      ⟨repeated, presentToo, again, nonempty⟩
  · rintro unique first second ⟨path, item⟩ ⟨path', item'⟩ method other id here there
      ⟨operation, present, named, nonempty⟩ ⟨repeated, presentToo, again, _⟩
    exact unique first second method other operation repeated id ⟨path, item, here, present⟩
      ⟨path', item', there, presentToo⟩ named again nonempty

end Document

private theorem checkOperations_eq_nil {config : Config} {document : Document} : checkOperations config document = [] ↔
    (∀ index method operation, document.operationAt? index method = some operation → operation.Complies config) ∧
    (config.enabled .operationIdUnique → document.IdsAreUnique) := by
  simp [checkOperations, Endpoint.checkFrom_eq_nil, ← Document.forall_operations, ← Document.nodup_ids_iff]

private theorem checkModels_eq_nil {document : Document} : checkModels document = [] ↔
    ∀ name schema, (name, schema) ∈ document.schemas → ∀ property content, (property, content) ∈ schema.properties →
      (∃ target, content.reference = some target) ∨ ∃ sample, content.sample = some sample := by
  have spared (content : Schema) : content.lacksExample = false ↔
      (∃ target, content.reference = some target) ∨ ∃ sample, content.sample = some sample := by
    simp only [Schema.lacksExample, Schema.isReference, ← Option.isSome_iff_exists]
    cases content.reference <;> cases content.sample <;> simp
  simp [checkModels, checkModel, ← spared]

theorem isBraced_iff {segment : List Char} :
    isBraced segment = true ↔ ∃ inner, segment = '\x7b' :: inner ++ ['\x7d'] := by
  simp only [isBraced, Bool.and_eq_true, decide_eq_true_eq, List.head?_eq_some_iff]
  constructor
  · rintro ⟨⟨rest, rfl⟩, closed⟩
    obtain ⟨inner, shape⟩ := List.getLast?_eq_some_iff.mp closed
    cases inner with
    | nil => simp at shape
    | cons first inner =>
      obtain ⟨rfl, rfl⟩ := List.cons.inj shape
      exact ⟨inner, rfl⟩
  · rintro ⟨inner, rfl⟩
    exact ⟨⟨_, rfl⟩, List.getLast?_concat⟩

theorem mem_literalSegments {path segment : String} :
    segment ∈ literalSegments path ↔ IsLiteralSegment path segment := by
  simp only [literalSegments, List.mem_map, List.mem_filter, Text.pieces_eq_splitOn, Bool.and_eq_true,
    Bool.not_eq_true', ← Bool.not_eq_true, isBraced_iff, not_exists]
  constructor
  · rintro ⟨characters, ⟨between, nonempty, literal⟩, rfl⟩
    refine ⟨by simpa using between, ?_, by simpa using literal⟩
    intro empty
    exact nonempty (by simpa using congrArg String.toList empty)
  · rintro ⟨between, nonempty, literal⟩
    exact ⟨segment.toList, ⟨between, by simpa using nonempty, literal⟩, String.ofList_toList⟩

namespace Parameter

theorem isCustomHeader_iff {parameter : Parameter} {name : String} (named : parameter.name = some name) :
    parameter.isCustomHeader = true ↔ parameter.location = some .header ∧ "X-".toList <+: name.toList := by
  simp [isCustomHeader, startsWith, named]

theorem checkedName_eq_some {config : Config} {parameter : Parameter} {name : String} :
    parameter.checkedName config = some name ↔ parameter.NameIsDue config name := by
  unfold checkedName
  split
  next spared =>
    simp only [reduceCtorEq, false_iff]
    rintro ⟨named, notReference, notExempt⟩
    simp only [notReference, Option.isSome_none, Bool.false_or, Bool.and_eq_true, isCustomHeader_iff named] at spared
    exact notExempt ⟨spared.2, spared.1⟩
  next due =>
    simp only [Bool.or_eq_true, Bool.and_eq_true, not_or, not_and] at due
    constructor
    · intro named
      refine ⟨named, by simpa using due.1, ?_⟩
      rintro ⟨ignored, header⟩
      exact due.2 ((isCustomHeader_iff named).mpr header) ignored
    · exact NameIsDue.named

end Parameter

private theorem checkPropertyNames_eq_nil {config : Config} {name : String} {schema : Schema} :
    checkPropertyNames config name schema = [] ↔
      ∀ property content, (property, content) ∈ schema.properties → config.propertyNaming.accepts property := by
  simp [checkPropertyNames]

private theorem checkParameterNames_eq_nil {config : Config} {path : String} {method : Method} {operation : Operation} :
    checkParameterNames config path method operation = [] ↔ ∀ parameter ∈ operation.parameters,
      ∀ name, parameter.NameIsDue config name → config.parameterNaming.accepts name := by
  simp [checkParameterNames, Parameter.checkedName_eq_some]

private theorem checkSegments_eq_nil {config : Config} {path : String} : checkSegments config path = [] ↔
    ∀ segment, IsLiteralSegment path segment → config.pathNaming.accepts segment := by
  simp [checkSegments, mem_literalSegments]

private theorem checkNames_eq_nil {config : Config} {document : Document} :
    checkNames config document = [] ↔ document.NamesComply config := by
  simp only [checkNames, checkPathNames, List.append_eq_nil_iff, List.flatMap_eq_nil_iff, Prod.forall,
    PathItem.mem_operations, checkPropertyNames_eq_nil, checkParameterNames_eq_nil, checkSegments_eq_nil]
  constructor
  · rintro ⟨properties, paths⟩
    refine ⟨properties, ?_, fun path item member => (paths path item member).2⟩
    intro index method operation present
    obtain ⟨path, item, here, present⟩ := Document.operationAt?_eq_some.mp present
    exact (paths path item (List.mem_of_getElem? here)).1 method operation present
  · rintro ⟨properties, parameters, segments⟩
    refine ⟨properties, fun path item member => ⟨?_, segments path item member⟩⟩
    intro method operation present
    obtain ⟨index, here⟩ := List.mem_iff_getElem?.mp member
    exact parameters index method operation (Document.operationAt?_eq_some.mpr ⟨path, item, here, present⟩)

namespace Pass

private theorem contribution_eq_nil {pass : Pass} {subject : Subject} :
    pass.contribution subject = [] ↔ (pass.isEnabled subject.config → pass.findings subject = []) := by
  simp [contribution]

variable {document : Document} {info : Info} {config : Config}

theorem info_clean : Pass.info.contribution ⟨document, info, config⟩ = [] ↔ info.Complies config := by
  rw [contribution_eq_nil, findings, Info.check_eq_nil]
  refine ⟨fun complies => ?_, fun complies _ => complies⟩
  by_cases enabled : Pass.info.isEnabled config
  · exact complies enabled
  · simp only [isEnabled, effective, toggles, List.any_cons, List.any_nil, Bool.or_eq_true, not_or] at enabled
    exact ⟨fun on => absurd on enabled.1, fun on => absurd on enabled.2.2.1, fun on => absurd on enabled.2.1⟩

theorem servers_clean : Pass.servers.contribution ⟨document, info, config⟩ = [] ↔
    (config.enabled .serverInfo → ∀ server ∈ document.servers, server.Complies config) := by
  simp [contribution_eq_nil, findings, checkServers_eq_nil, isEnabled, effective, toggles]

theorem operations_clean : Pass.operations.contribution ⟨document, info, config⟩ = [] ↔
    (∀ index method operation, document.operationAt? index method = some operation → operation.Complies config) ∧
    (config.enabled .operationIdUnique → document.IdsAreUnique) := by
  rw [contribution_eq_nil, findings, checkOperations_eq_nil]
  refine ⟨fun complies => ?_, fun complies _ => complies⟩
  by_cases enabled : Pass.operations.isEnabled config
  · exact complies enabled
  · simp only [isEnabled, effective, toggles, List.any_cons, List.any_nil, Bool.or_eq_true, not_or] at enabled
    obtain ⟨operationId, unique, description, summary, tags, _⟩ := enabled
    exact ⟨fun _ _ _ _ => ⟨fun on => absurd on operationId, fun on => absurd on description,
      fun on => absurd on summary, fun on => absurd on tags⟩, fun on => absurd on unique⟩

theorem models_clean : Pass.models.contribution ⟨document, info, config⟩ = [] ↔
    (config.enabled .propertyExample → ∀ name schema, (name, schema) ∈ document.schemas →
      ∀ property content, (property, content) ∈ schema.properties →
        (∃ target, content.reference = some target) ∨ ∃ sample, content.sample = some sample) := by
  simp [contribution_eq_nil, findings, checkModels_eq_nil, isEnabled, effective]

theorem naming_clean : Pass.naming.contribution ⟨document, info, config⟩ = [] ↔
    (config.enabled .naming → document.NamesComply config) := by
  simp [contribution_eq_nil, findings, checkNames_eq_nil, isEnabled, effective]

end Pass

/-- A run fails exactly on a document without an info object, whatever is configured, and reports nothing exactly
on a document that complies. -/
theorem validate?_clean_iff_complies (document : Document) (config : Config) :
    (({} : Validator).validate? document config = none ↔ document.info = none) ∧
    (({} : Validator).validate? document config = some [] ↔ document.Complies config) := by
  rw [Validator.validate?_eq]
  refine ⟨Option.map_eq_none_iff, ?_⟩
  simp only [Option.map_eq_some_iff, Pass.all, List.flatMap_cons, List.flatMap_nil, List.append_nil,
    List.append_eq_nil_iff, Pass.info_clean, Pass.servers_clean, Pass.operations_clean, Pass.models_clean,
    Pass.naming_clean]
  constructor
  · rintro ⟨info, present, complies, servers, ⟨operations, uniqueIds⟩, examples, names⟩
    exact ⟨⟨info, present, complies⟩, servers, operations, uniqueIds, examples, names⟩
  · rintro ⟨⟨info, present, complies⟩, servers, operations, uniqueIds, examples, names⟩
    exact ⟨info, present, complies, servers, ⟨operations, uniqueIds⟩, examples, names⟩

end ApiStyle
