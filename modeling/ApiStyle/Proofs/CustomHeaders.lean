import ApiStyle.Proofs.Compliance
import ApiStyle.Proofs.KnownDomains

/-! Headers whose names start with `X-`. While they are exempt, a document comes to the same violations as the document
without them; and nothing is spared by that but their names. -/

namespace ApiStyle

namespace Parameter

/-- A header that is not a reference and has a name that everyone may make up. -/
structure IsExempt (parameter : Parameter) : Prop where
  notReference : parameter.reference = none
  header : parameter.location = some .header
  custom : ∃ name, parameter.name = some name ∧ "X-".toList <+: name.toList

theorem isExempt_iff {parameter : Parameter} :
    parameter.IsExempt ↔ parameter.reference = none ∧ parameter.isCustomHeader = true := by
  constructor
  · rintro ⟨notReference, header, name, named, starts⟩
    exact ⟨notReference, (isCustomHeader_iff named).mpr ⟨header, starts⟩⟩
  · rintro ⟨notReference, custom⟩
    cases named : parameter.name with
    | none => simp [isCustomHeader, named] at custom
    | some name =>
      obtain ⟨header, starts⟩ := (isCustomHeader_iff named).mp custom
      exact ⟨notReference, header, name, named, starts⟩

instance : DecidablePred IsExempt := fun _ => decidable_of_iff _ isExempt_iff.symm

theorem IsExempt.checkedName {parameter : Parameter} (exempt : parameter.IsExempt) {config : Config}
    (ignored : config.enabled .ignoreCustomHeader) : parameter.checkedName config = none := by
  rw [Parameter.checkedName, (isExempt_iff.mp exempt).2, ignored, Bool.true_and, Bool.or_true]
  rfl

theorem checkedName_of_due {parameter : Parameter} (due : ¬ parameter.IsExempt) (config other : Config) :
    parameter.checkedName config = parameter.checkedName other := by
  by_cases plain : parameter.reference = none
  · have custom : parameter.isCustomHeader = false := by
      simpa [isExempt_iff, plain] using due
    rw [checkedName, checkedName, custom, Bool.false_and, Bool.false_and]
  · have referred : parameter.reference.isSome = true := Option.isSome_iff_ne_none.mpr plain
    rw [checkedName, checkedName, referred, Bool.true_or, Bool.true_or]

end Parameter

def Operation.withoutExempt (operation : Operation) : Operation :=
  { operation with parameters := operation.parameters.filter fun parameter => ¬ parameter.IsExempt }

namespace PathItem

def mapOperations (change : Operation → Operation) (item : PathItem) : PathItem where
  get := item.get.map change
  put := item.put.map change
  post := item.post.map change
  delete := item.delete.map change
  options := item.options.map change
  head := item.head.map change
  patch := item.patch.map change
  trace := item.trace.map change

private theorem operation?_mapOperations (change : Operation → Operation) (item : PathItem) (method : Method) :
    (item.mapOperations change).operation? method = (item.operation? method).map change := by
  cases method <;> rfl

theorem operations_mapOperations (change : Operation → Operation) (item : PathItem) :
    (item.mapOperations change).operations =
      item.operations.map fun (method, operation) => (method, change operation) := by
  simp only [operations, operation?_mapOperations, List.map_filterMap, Option.map_map, Function.comp_def]

end PathItem

namespace Document

def withoutExempt (document : Document) : Document :=
  { document with
    paths := document.paths.map fun (path, item) => (path, item.mapOperations Operation.withoutExempt) }

private theorem endpoints_withoutExempt (document : Document) : document.withoutExempt.endpoints =
    document.endpoints.map fun endpoint => { endpoint with operation := endpoint.operation.withoutExempt } := by
  simp only [endpoints, withoutExempt, List.flatMap_map, List.map_flatMap, List.map_map, Function.comp_def,
    PathItem.operations_mapOperations]

end Document

namespace Violation

/-- That the name of a parameter does not follow its convention, the name being one of a custom header. -/
def IsCustomName (violation : Violation) : Prop :=
  ∃ name expected path method, "X-".toList <+: name.toList ∧
    violation = .naming name .parameter (.convention expected) (.operation path (some method))

end Violation

open Violation (IsCustomName)

section

variable (config : Config) (path : String) (method : Method)

/-- What is found of one parameter. -/
def Parameter.finding? (parameter : Parameter) : Option Violation :=
  (parameter.checkedName config).bind fun name =>
    if config.parameterNaming.accepts name then none
    else some (.badOperationName name .parameter config.parameterNaming path (some method))

theorem checkParameterNames_eq (operation : Operation) : checkParameterNames config path method operation =
    operation.parameters.filterMap (Parameter.finding? config path method) := rfl

private theorem checkParameterNames_withoutExempt (on : Bool) (operation : Operation) :
    checkParameterNames (config.set .ignoreCustomHeader on) path method operation.withoutExempt =
      checkParameterNames (config.set .ignoreCustomHeader true) path method operation := by
  rw [checkParameterNames_eq, checkParameterNames_eq, Operation.withoutExempt, List.filterMap_filter]
  congr 1
  funext parameter
  by_cases exempt : parameter.IsExempt
  · have spared : parameter.checkedName (config.set .ignoreCustomHeader true) = none := exempt.checkedName rfl
    simp [exempt, Parameter.finding?, spared]
  · simp only [exempt, not_false_eq_true, decide_true, if_true, Parameter.finding?]
    rw [Parameter.checkedName_of_due exempt _ (config.set .ignoreCustomHeader true)]
    rfl

private theorem Parameter.IsExempt.isCustomName {config : Config} {path : String} {method : Method}
    {parameter : Parameter}
    (exempt : parameter.IsExempt) {violation : Violation}
    (found : parameter.finding? config path method = some violation) : violation.IsCustomName := by
  obtain ⟨_, _, name, named, starts⟩ := exempt
  obtain ⟨given, due, told⟩ := Option.bind_eq_some_iff.mp found
  obtain rfl : name = given := by
    have same := (Parameter.checkedName_eq_some.mp due).named
    rw [named] at same
    exact Option.some.inj same
  split at told
  · cases told
  · obtain rfl := Option.some.inj told
    exact ⟨name, _, _, _, starts, rfl⟩

private theorem drops_checkParameterNames (operation : Operation) :
    Drops IsCustomName (checkParameterNames (config.set .ignoreCustomHeader false) path method operation)
      (checkParameterNames (config.set .ignoreCustomHeader true) path method operation) := by
  rw [checkParameterNames_eq, checkParameterNames_eq]
  apply Drops.filterMap
  intro parameter
  by_cases exempt : parameter.IsExempt
  · have spared : parameter.finding? (config.set .ignoreCustomHeader true) path method = none := by
      rw [Parameter.finding?, exempt.checkedName rfl, Option.bind_none]
    rw [spared]
    cases found : parameter.finding? (config.set .ignoreCustomHeader false) path method with
    | none => exact .nil
    | some violation => exact .drop (exempt.isCustomName found) .nil
  · rw [Parameter.finding?, Parameter.checkedName_of_due exempt (config.set .ignoreCustomHeader false)
      (config.set .ignoreCustomHeader true)]
    exact Drops.refl _

end

section

variable (document : Document) (info : Info) (config : Config) (pass : Pass)

private theorem checkPathNames_withoutExempt (on : Bool) (path : String) (item : PathItem) :
    checkPathNames (config.set .ignoreCustomHeader on) path (item.mapOperations Operation.withoutExempt) =
      checkPathNames (config.set .ignoreCustomHeader true) path item := by
  rw [checkPathNames, checkPathNames, PathItem.operations_mapOperations, List.flatMap_map]
  congr 1
  exact List.flatMap_congr fun entry _ => checkParameterNames_withoutExempt config path entry.1 on entry.2

private theorem Pass.findings_withoutExempt (on : Bool) :
    pass.findings ⟨document.withoutExempt, info, config.set .ignoreCustomHeader on⟩ =
      pass.findings ⟨document, info, config.set .ignoreCustomHeader true⟩ := by
  cases pass with
  | info | servers | models => rfl
  | operations =>
    change Endpoint.checkFrom _ [] document.withoutExempt.endpoints = Endpoint.checkFrom _ [] document.endpoints
    rw [Document.endpoints_withoutExempt]
    apply Endpoint.checkFrom_map
    · exact fun _ => rfl
    · exact fun _ _ => rfl
  | naming =>
    change _ ++ List.flatMap _ (document.paths.map _) = _ ++ document.paths.flatMap _
    rw [List.flatMap_map]
    congr 1
    exact List.flatMap_congr fun entry _ => checkPathNames_withoutExempt config on entry.1 entry.2

private theorem Pass.drops_findings :
    Drops IsCustomName (pass.findings ⟨document, info, config.set .ignoreCustomHeader false⟩)
      (pass.findings ⟨document, info, config.set .ignoreCustomHeader true⟩) := by
  cases pass with
  | info | servers | models => exact Drops.refl _
  | operations =>
    have same : Endpoint.checkFrom (config.set .ignoreCustomHeader false) [] document.endpoints =
        Endpoint.checkFrom (config.set .ignoreCustomHeader true) [] document.endpoints := by
      apply Endpoint.checkFrom_of_check
      exact fun _ _ => rfl
    change Drops _ (Endpoint.checkFrom _ [] _) (Endpoint.checkFrom _ [] _)
    rw [same]
    exact Drops.refl _
  | naming =>
    apply (Drops.refl _).append
    apply Drops.flatMap
    intro entry
    apply Drops.append _ (Drops.refl _)
    exact Drops.flatMap _ fun operation => drops_checkParameterNames config entry.1 operation.1 operation.2

theorem Pass.contribution_set (on : Bool) : pass.contribution ⟨document, info, config.set .ignoreCustomHeader on⟩ =
    if pass.isEnabled config then pass.findings ⟨document, info, config.set .ignoreCustomHeader on⟩ else [] := by
  cases pass <;> rfl

end

/-- With custom headers exempt a document comes to the same violations as without them, whether they are exempt there
or not; and with them not exempt there are the same violations and some more about their names. -/
theorem validate?_withoutExempt {document : Document} {info : Info} (present : document.info = some info)
    (config : Config) :
    ∃ found kept, ({} : Validator).validate? document (config.set .ignoreCustomHeader false) = some found ∧
      ({} : Validator).validate? document (config.set .ignoreCustomHeader true) = some kept ∧
      (∀ on, ({} : Validator).validate? document.withoutExempt (config.set .ignoreCustomHeader on) = some kept) ∧
      Drops IsCustomName found kept := by
  refine ⟨_, _, Validator.validate?_of_info present _ Pass.all, Validator.validate?_of_info present _ Pass.all, ?_, ?_⟩
  · intro on
    have presentToo : document.withoutExempt.info = some info := present
    rw [Validator.validate?_of_info presentToo _ Pass.all]
    simp only [Pass.contribution_set, Pass.findings_withoutExempt]
  · apply Drops.flatMap
    intro pass
    rw [Pass.contribution_set, Pass.contribution_set]
    split
    · exact pass.drops_findings document info config
    · exact .nil

/-- A document with a custom header that comes twice, one that is a reference, and others that only look alike. -/
def Document.traced : Document where
  info := some {}
  paths := [("/pets", {
    get := some { parameters := [
      { name := some "X-Trace_Id", location := some .header }, { name := some "X-Filter", location := some .query },
      { name := some "X-Owner", location := some .header, reference := some "#/components/parameters/Owner" },
      { name := some "x-cache", location := some .header },
      { name := some "X-Trace_Id", location := some .header }] } })]

/-- A configuration with the rule for names alone. -/
def Config.ofNames : Config where
  enabled toggle := toggle = .naming

theorem traced_withoutExempt : Document.traced.info = some {} ∧
    (∀ on, ({} : Validator).validate? Document.traced.withoutExempt (Config.ofNames.set .ignoreCustomHeader on) =
      ({} : Validator).validate? .traced (Config.ofNames.set .ignoreCustomHeader true)) ∧
    ∃ found kept, ({} : Validator).validate? .traced (Config.ofNames.set .ignoreCustomHeader false) = some found ∧
      ({} : Validator).validate? .traced (Config.ofNames.set .ignoreCustomHeader true) = some kept ∧
      found.map Violation.field = ["X-Trace_Id", "X-Filter", "x-cache", "X-Trace_Id"] ∧
      kept.map Violation.field = ["X-Filter", "x-cache"] ∧ Drops IsCustomName found kept := by
  obtain ⟨found, kept, all, spared, without, dropped⟩ := @validate?_withoutExempt .traced _ rfl .ofNames
  have told : (({} : Validator).validate? .traced (Config.ofNames.set .ignoreCustomHeader false)).map
      (·.map Violation.field) = some ["X-Trace_Id", "X-Filter", "x-cache", "X-Trace_Id"] := by decide
  have toldToo : (({} : Validator).validate? .traced (Config.ofNames.set .ignoreCustomHeader true)).map
      (·.map Violation.field) = some ["X-Filter", "x-cache"] := by decide
  rw [all] at told
  rw [spared] at toldToo
  refine ⟨rfl, fun on => (without on).trans spared.symm, found, kept, all, spared, ?_, ?_, dropped⟩
  · exact Option.some.inj told
  · exact Option.some.inj toldToo

end ApiStyle
