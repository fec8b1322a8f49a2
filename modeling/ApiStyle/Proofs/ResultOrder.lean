import ApiStyle.Proofs.Occurrences
import Mathlib.Data.List.Forall2
import Mathlib.Data.List.Lex

/-! The order of a result. Every violation is about a site of the document, and the sites have ranks: steps from the
pass through the maps and lists of the document to the check that was made. The main statement is that the sites of
a result come strictly one after another in the lexicographic order of their ranks, whatever is configured. -/

namespace ApiStyle

/-- Where in a document something is checked, and for what. Maps, lists and the pieces of texts are counted. -/
inductive Site where
  | license | description | contact
  | placeholder (server piece : Nat)
  | url (server : Nat)
  | check (path : Nat) (method : Method) (made : Check)
  | sample (schema index : Nat)
  | property (schema index : Nat)
  | parameter (path : Nat) (method : Method) (index : Nat)
  | segment (path index : Nat)
deriving DecidableEq, Repr

namespace Site

def pass : Site → Pass
  | license | description | contact => .info
  | placeholder .. | url _ => .servers
  | check .. => .operations
  | sample .. => .models
  | property .. | parameter .. | segment .. => .naming

/-- The steps to a site within its pass. -/
def steps : Site → List Nat
  | license => [0]
  | description => [1]
  | contact => [2]
  | placeholder server piece => [server, 0, piece]
  | url server => [server, 1]
  | check path method made => [path, Method.all.idxOf method, Check.all.idxOf made]
  | sample schema index => [schema, index]
  | property schema index => [0, schema, index]
  | parameter path method index => [1, path, 0, Method.all.idxOf method, index]
  | segment path index => [1, path, 1, index]

def rank (site : Site) : List Nat := Pass.all.idxOf site.pass :: site.steps

/-- The lexicographic order of ranks. -/
def Earlier (first second : Site) : Prop := List.Lex (· < ·) first.rank second.rank

private theorem earlier_of_steps {first second : Site} {start : List Nat} {low high : Nat} (less : low < high)
    (here : start ++ [low] <+: first.rank) (there : start ++ [high] <+: second.rank) : first.Earlier second := by
  obtain ⟨rest, same⟩ := here
  obtain ⟨other, sameToo⟩ := there
  have step : List.Lex (· < ·) (low :: rest) (high :: other) := .rel less
  have common := List.Lex.append_left (· < ·) step start
  rw [Earlier, ← same, ← sameToo, List.append_assoc, List.append_assoc]
  exact common

end Site

/-- What a violation says that is found at a site. -/
inductive Document.Reports (document : Document) (config : Config) : Site → Violation → Prop
  | noLicense : Reports document config .license (.missingAttribute .info "license")
  | emptyLicense : Reports document config .license (.missingAnyOf .info "license" ["name", "url"])
  | description : Reports document config .description (.missingAttribute .info "description")
  | noContact : Reports document config .contact (.missingAttribute .info "contact")
  | emptyContact : Reports document config .contact (.missingAnyOf .info "contact" ["name", "url", "email"])
  | placeholder {index piece server name} : document.servers[index]? = some server →
      server.pieces[piece]? = some (.placeholder name) →
      Reports document config (.placeholder index piece) (.undeclaredVariable server.url (String.ofList name))
  | url {index server} : document.servers[index]? = some server →
      Reports document config (.url index) (.invalidServerUrl server.resolved)
  | missing {index path item method operation detail} : document.paths[index]? = some (path, item) →
      item.operation? method = some operation → operation.Lacks detail →
      Reports document config (.check index method (.missing detail)) (Endpoint.lack ⟨path, method, operation⟩ detail)
  | repeated {index path item method operation id} : document.paths[index]? = some (path, item) →
      item.operation? method = some operation → operation.operationId = some id →
      Reports document config (.check index method .repeated) (.repeatedOperationId id path method)
  | sample {index name schema position property content} : document.schemas[index]? = some (name, schema) →
      schema.properties[position]? = some (property, content) →
      Reports document config (.sample index position) (.missingModelAttribute name property "example")
  | property {index name schema position property content} : document.schemas[index]? = some (name, schema) →
      schema.properties[position]? = some (property, content) →
      Reports document config (.property index position) (.badModelName property .property config.propertyNaming name)
  | parameter {index path item method operation position parameter name} :
      document.paths[index]? = some (path, item) → item.operation? method = some operation →
      operation.parameters[position]? = some parameter → parameter.name = some name →
      Reports document config (.parameter index method position)
        (.badOperationName name .parameter config.parameterNaming path (some method))
  | segment {index path item position segment} : document.paths[index]? = some (path, item) →
      (path.toList.splitOn '/')[position]? = some segment.toList →
      Reports document config (.segment index position) (.badOperationName segment .path config.pathNaming path none)

/-- Violations at sites that come strictly one after another, all of them behind the given first steps. -/
def Ordered (document : Document) (config : Config) (start : List Nat) (found : List Violation) : Prop :=
  ∃ sites, List.Forall₂ (document.Reports config) sites found ∧ sites.Pairwise Site.Earlier ∧
    ∀ site ∈ sites, start <+: site.rank

namespace Ordered

variable {α : Type} {document : Document} {config : Config} {start : List Nat}

theorem nil : Ordered document config start [] := ⟨[], .nil, .nil, List.forall_mem_nil _⟩

theorem single {site : Site} {violation : Violation} (reported : document.Reports config site violation)
    (inside : start <+: site.rank) : Ordered document config start [violation] :=
  ⟨[site], .cons reported .nil, List.pairwise_singleton _ _, List.forall_mem_singleton.mpr inside⟩

theorem weaken {deeper : List Nat} {found : List Violation} (ordered : Ordered document config deeper found)
    (inside : start <+: deeper) : Ordered document config start found := by
  obtain ⟨sites, reported, sorted, behind⟩ := ordered
  exact ⟨sites, reported, sorted, fun site member => inside.trans (behind site member)⟩

theorem gate {on : Prop} [Decidable on] {found : List Violation} (ordered : Ordered document config start found) :
    Ordered document config start (if on then found else []) := by
  split
  · exact ordered
  · exact nil

/-- The parts of a result are numbered by the next step. The count starts anywhere, for the induction. -/
private theorem flatten_from {parts : List (List Violation)} (offset : Nat)
    (each : ∀ index part, parts[index]? = some part → Ordered document config (start ++ [offset + index]) part) :
    ∃ sites, List.Forall₂ (document.Reports config) sites parts.flatten ∧ sites.Pairwise Site.Earlier ∧
      ∀ site ∈ sites, ∃ index, offset ≤ index ∧ start ++ [index] <+: site.rank := by
  induction parts generalizing offset with
  | nil => exact ⟨[], .nil, .nil, List.forall_mem_nil _⟩
  | cons part rest ih =>
    obtain ⟨first, reported, sorted, behind⟩ := each 0 part rfl
    have others : ∀ index part, rest[index]? = some part →
        Ordered document config (start ++ [offset + 1 + index]) part := by
      intro index part here
      have shifted := each (index + 1) part here
      rwa [Nat.add_comm index 1, ← Nat.add_assoc] at shifted
    obtain ⟨later, reportedToo, sortedToo, behindToo⟩ := ih (offset + 1) others
    refine ⟨first ++ later, List.rel_append reported reportedToo, ?_, ?_⟩
    · refine List.pairwise_append.mpr ⟨sorted, sortedToo, fun site member other memberToo => ?_⟩
      obtain ⟨index, beyond, there⟩ := behindToo other memberToo
      have less : offset + 0 < index := by omega
      exact Site.earlier_of_steps less (behind site member) there
    · intro site member
      rcases List.mem_append.mp member with here | there
      · exact ⟨offset, Nat.le_refl offset, behind site here⟩
      · obtain ⟨index, beyond, inside⟩ := behindToo site there
        exact ⟨index, by omega, inside⟩

theorem flatten {parts : List (List Violation)}
    (each : ∀ index part, parts[index]? = some part → Ordered document config (start ++ [index]) part) :
    Ordered document config start parts.flatten := by
  have counted : ∀ index part, parts[index]? = some part → Ordered document config (start ++ [0 + index]) part := by
    intro index part here
    rw [Nat.zero_add]
    exact each index part here
  obtain ⟨sites, reported, sorted, behind⟩ := flatten_from 0 counted
  refine ⟨sites, reported, sorted, fun site member => ?_⟩
  obtain ⟨index, _, inside⟩ := behind site member
  exact (List.prefix_append start [index]).trans inside

theorem pair {first second : List Violation} (low : Ordered document config (start ++ [0]) first)
    (high : Ordered document config (start ++ [1]) second) : Ordered document config start (first ++ second) := by
  have parts : first ++ second = [first, second].flatten := by simp
  rw [parts]
  refine flatten fun index part here => ?_
  rcases index with _ | _ | beyond
  · exact Option.some.inj here ▸ low
  · exact Option.some.inj here ▸ high
  · cases here

theorem flatMap {items : List α} {find : α → List Violation}
    (each : ∀ index item, items[index]? = some item → Ordered document config (start ++ [index]) (find item)) :
    Ordered document config start (items.flatMap find) := by
  rw [List.flatMap_def]
  refine flatten fun index part here => ?_
  rw [List.getElem?_map] at here
  obtain ⟨item, found, rfl⟩ := Option.map_eq_some_iff.mp here
  exact each index item found

theorem filterMap {items : List α} {find : α → Option Violation}
    (each : ∀ index item violation, items[index]? = some item → find item = some violation →
      ∃ site, document.Reports config site violation ∧ start ++ [index] <+: site.rank) :
    Ordered document config start (items.filterMap find) := by
  rw [List.filterMap_eq_flatMap_toList]
  refine flatMap fun index item here => ?_
  cases found : find item with
  | none => exact nil
  | some violation =>
    obtain ⟨site, reported, inside⟩ := each index item violation here found
    exact single reported inside

theorem checkFrom_flatMap {items : List α} {endpoints : α → List Endpoint} (seen : List String)
    (each : ∀ index item seen, items[index]? = some item →
      Ordered document config (start ++ [index]) (Endpoint.checkFrom config seen (endpoints item))) :
    Ordered document config start (Endpoint.checkFrom config seen (items.flatMap endpoints)) := by
  have grouped : ∀ (items : List α) (seen : List String), ∃ parts : List (List Violation),
      Endpoint.checkFrom config seen (items.flatMap endpoints) = parts.flatten ∧
      ∀ (index : Nat) part, parts[index]? = some part → ∃ item seen, items[index]? = some item ∧
        part = Endpoint.checkFrom config seen (endpoints item) := by
    intro items
    induction items with
    | nil => exact fun seen => ⟨[], rfl, by simp⟩
    | cons item rest ih =>
      intro seen
      obtain ⟨parts, same, groups⟩ := ih (((endpoints item).filterMap Endpoint.id?).reverse ++ seen)
      refine ⟨Endpoint.checkFrom config seen (endpoints item) :: parts, ?_, ?_⟩
      · rw [List.flatMap_cons, Endpoint.checkFrom_append, same, List.flatten_cons]
      · intro index part here
        cases index with
        | zero => exact ⟨item, seen, rfl, (Option.some.inj here).symm⟩
        | succ index => exact groups index part here
  obtain ⟨parts, same, groups⟩ := grouped items seen
  rw [same]
  refine flatten fun index part here => ?_
  obtain ⟨item, seen, found, rfl⟩ := groups index part here
  exact each index item seen found

end Ordered

theorem idxOf_of_getElem? {α : Type} [DecidableEq α] {items : List α} (distinct : items.Nodup) {index : Nat} {item : α}
    (here : items[index]? = some item) : items.idxOf item = index := by
  obtain ⟨inside, rfl⟩ := List.getElem?_eq_some_iff.mp here
  exact distinct.idxOf_getElem index inside

variable {document : Document} {config : Config}

private theorem Info.ordered_check (info : Info) : Ordered document config [0] (info.check config) := by
  have license : Ordered document config [0, 0] info.checkLicense := by
    unfold checkLicense
    split
    · exact .single .noLicense (List.prefix_refl _)
    · split
      · exact .nil
      · exact .single .emptyLicense (List.prefix_refl _)
  have description : Ordered document config [0, 1] info.checkDescription := by
    unfold checkDescription
    split
    · exact .nil
    · exact .single .description (List.prefix_refl _)
  have contact : Ordered document config [0, 2] info.checkContact := by
    unfold checkContact
    split
    · exact .single .noContact (List.prefix_refl _)
    · split
      · exact .nil
      · exact .single .emptyContact (List.prefix_refl _)
  have parts : info.check config = [if config.enabled .infoLicense then info.checkLicense else [],
      if config.enabled .infoDescription then info.checkDescription else [],
      if config.enabled .infoContact then info.checkContact else []].flatten := by
    simp only [check, List.flatten_cons, List.flatten_nil, List.append_nil, List.append_assoc]
  rw [parts]
  refine Ordered.flatten fun index part here => ?_
  rcases index with _ | _ | _ | beyond
  · exact Option.some.inj here ▸ license.gate
  · exact Option.some.inj here ▸ description.gate
  · exact Option.some.inj here ▸ contact.gate
  · cases here

private theorem Server.ordered_check {index : Nat} {server : Server} (here : document.servers[index]? = some server) :
    Ordered document config [1, index] (server.check config) := by
  unfold check
  split
  · dsimp only
    split
    · exact .nil
    · exact .single (.url here) (List.prefix_append [1, index] [1])
  next incomplete =>
    rw [undeclared_eq, List.map_filterMap]
    have pieces : [1, index] <+: [1, index, 0] := List.prefix_append [1, index] [0]
    refine Ordered.weaken (Ordered.filterMap fun position piece violation there found => ?_) pieces
    obtain ⟨name, undeclared, rfl⟩ := Option.map_eq_some_iff.mp found
    cases piece with
    | literal character => cases undeclared
    | placeholder characters =>
      rw [undeclared?] at undeclared
      split at undeclared
      · cases undeclared
      · obtain rfl := Option.some.inj undeclared
        exact ⟨.placeholder index position, .placeholder here there, List.prefix_refl _⟩

private theorem ordered_checkServers : Ordered document config [1] (checkServers config document) :=
  .flatMap fun _ _ here => Server.ordered_check here

theorem PathItem.flatMap_operations {β : Type} (item : PathItem) (find : Method × Operation → List β) :
    item.operations.flatMap find =
      Method.all.flatMap fun method => (item.operation? method).toList.flatMap fun operation => find (method, operation) := by
  simp only [operations, List.filterMap_eq_flatMap_toList, List.flatMap_assoc]
  refine congrArg (fun visit => List.flatMap visit Method.all) (funext fun method => ?_)
  cases item.operation? method with
  | none => rfl
  | some operation => rfl

theorem Document.endpoints_eq (document : Document) : document.endpoints = document.paths.flatMap fun entry =>
    Method.all.flatMap fun method => (entry.2.operation? method).toList.map fun operation => ⟨entry.1, method, operation⟩ := by
  refine congrArg (fun visit => List.flatMap visit document.paths) (funext fun entry => ?_)
  obtain ⟨path, item⟩ := entry
  dsimp only
  rw [List.map_eq_flatMap, PathItem.flatMap_operations]
  simp only [← List.map_eq_flatMap]

private theorem Endpoint.ordered_check {index : Nat} {path : String} {item : PathItem} {method : Method}
    {operation : Operation} {seen : List String} (here : document.paths[index]? = some (path, item))
    (present : item.operation? method = some operation) :
    Ordered document config [2, index, Method.all.idxOf method] (check config seen ⟨path, method, operation⟩) := by
  rw [check_eq_filterMap]
  refine Ordered.filterMap fun position made violation there found => ?_
  obtain rfl := idxOf_of_getElem? Check.nodup_all there
  refine ⟨.check index method made, ?_, List.prefix_refl _⟩
  split at found
  · cases made with
    | missing detail =>
      rw [finding?] at found
      split at found
      next lacks =>
        obtain rfl := Option.some.inj found
        exact .missing here present lacks
      · cases found
    | repeated =>
      obtain ⟨id, repeats, rfl⟩ := Option.map_eq_some_iff.mp found
      have own : Endpoint.id? ⟨path, method, operation⟩ = some id := (Option.filter_eq_some_iff.mp repeats).1
      exact .repeated here present (id?_eq_some.mp own).1
  · cases found

private theorem ordered_checkOperations : Ordered document config [2] (checkOperations config document) := by
  rw [checkOperations, Document.endpoints_eq]
  refine Ordered.checkFrom_flatMap [] fun index entry seen here => ?_
  refine Ordered.checkFrom_flatMap seen fun rank method seen there => ?_
  obtain rfl := idxOf_of_getElem? Method.nodup_all there
  cases present : entry.2.operation? method with
  | none => exact .nil
  | some operation =>
    have alone : Endpoint.checkFrom config seen [⟨entry.1, method, operation⟩] =
        Endpoint.check config seen ⟨entry.1, method, operation⟩ := List.append_nil _
    rw [Option.toList_some, List.map_singleton, alone]
    exact Endpoint.ordered_check here present

private theorem ordered_checkModels : Ordered document config [3] (checkModels document) := by
  refine Ordered.flatMap fun index entry here => ?_
  refine Ordered.filterMap fun position declared violation there found => ?_
  obtain ⟨property, content⟩ := declared
  refine ⟨.sample index position, ?_, List.prefix_refl _⟩
  dsimp only at found
  split at found
  · obtain rfl := Option.some.inj found
    exact .sample here there
  · cases found

private theorem ordered_checkPropertyNames {index : Nat} {name : String} {schema : Schema}
    (here : document.schemas[index]? = some (name, schema)) :
    Ordered document config [4, 0, index] (checkPropertyNames config name schema) := by
  refine Ordered.filterMap fun position declared violation there found => ?_
  obtain ⟨property, content⟩ := declared
  refine ⟨.property index position, ?_, List.prefix_refl _⟩
  dsimp only at found
  split at found
  · cases found
  · obtain rfl := Option.some.inj found
    exact .property here there

private theorem ordered_checkParameterNames {index : Nat} {path : String} {item : PathItem} {method : Method}
    {operation : Operation} (here : document.paths[index]? = some (path, item))
    (present : item.operation? method = some operation) :
    Ordered document config [4, 1, index, 0, Method.all.idxOf method]
      (checkParameterNames config path method operation) := by
  refine Ordered.filterMap fun position parameter violation there found => ?_
  refine ⟨.parameter index method position, ?_, List.prefix_refl _⟩
  obtain ⟨name, due, found⟩ := Option.bind_eq_some_iff.mp found
  split at found
  · cases found
  · obtain rfl := Option.some.inj found
    exact .parameter here present there (Parameter.checkedName_eq_some.mp due).named

private theorem ordered_checkSegments {index : Nat} {path : String} {item : PathItem}
    (here : document.paths[index]? = some (path, item)) :
    Ordered document config [4, 1, index, 1] (checkSegments config path) := by
  have split : checkSegments config path = (path.toList.splitOn '/').filterMap fun segment =>
      if !segment.isEmpty && !isBraced segment then
        (if config.pathNaming.accepts (String.ofList segment) then none
        else some (.badOperationName (String.ofList segment) .path config.pathNaming path none))
      else none := by
    simp only [checkSegments, literalSegments, Text.pieces_eq_splitOn, List.filterMap_map, List.filterMap_filter]
    rfl
  rw [split]
  refine Ordered.filterMap fun position segment violation there found => ?_
  refine ⟨.segment index position, ?_, List.prefix_refl _⟩
  split at found
  · split at found
    · cases found
    · obtain rfl := Option.some.inj found
      have written : (path.toList.splitOn '/')[position]? = some (String.ofList segment).toList := by
        rw [there, String.toList_ofList]
      exact .segment here written
  · cases found

private theorem ordered_checkPathNames {index : Nat} {path : String} {item : PathItem}
    (here : document.paths[index]? = some (path, item)) :
    Ordered document config [4, 1, index] (checkPathNames config path item) := by
  unfold checkPathNames
  refine Ordered.pair ?_ (ordered_checkSegments here)
  rw [PathItem.flatMap_operations]
  refine Ordered.flatMap fun rank method there => ?_
  obtain rfl := idxOf_of_getElem? Method.nodup_all there
  cases present : item.operation? method with
  | none => exact .nil
  | some operation =>
    rw [Option.toList_some, List.flatMap_singleton]
    exact ordered_checkParameterNames here present

private theorem ordered_checkNames : Ordered document config [4] (checkNames config document) := by
  refine Ordered.pair (Ordered.flatMap fun index entry here => ?_) (Ordered.flatMap fun index entry here => ?_)
  · exact ordered_checkPropertyNames here
  · exact ordered_checkPathNames here

theorem Pass.ordered_contribution (pass : Pass) (info : Info) :
    Ordered document config [Pass.all.idxOf pass] (pass.contribution ⟨document, info, config⟩) := by
  refine Ordered.gate ?_
  cases pass with
  | info => exact Info.ordered_check info
  | servers => exact ordered_checkServers
  | operations => exact ordered_checkOperations
  | models => exact ordered_checkModels
  | naming => exact ordered_checkNames

theorem Document.Reports.pass_eq {site : Site} {violation : Violation}
    (reported : document.Reports config site violation) : violation.pass = site.pass := by
  cases reported with
  | @missing _ _ _ _ _ detail => cases detail <;> rfl
  | _ => rfl

/-- The violations of a run are told at sites that come strictly one after another: in the order of the passes, and
within a pass in the order of the document. -/
theorem validate?_in_order {document : Document} {info : Info} (present : document.info = some info)
    (config : Config) : ∃ violations sites, ({} : Validator).validate? document config = some violations ∧
      List.Forall₂ (fun site violation => document.Reports config site violation ∧ violation.pass = site.pass)
        sites violations ∧
      sites.Pairwise Site.Earlier := by
  have ordered : Ordered document config [] (Pass.all.flatMap (·.contribution ⟨document, info, config⟩)) := by
    refine Ordered.flatMap fun rank pass here => ?_
    obtain rfl := idxOf_of_getElem? Pass.nodup_all here
    exact pass.ordered_contribution info
  obtain ⟨sites, reported, sorted, _⟩ := ordered
  have validated : ({} : Validator).validate? document config = some _ :=
    Validator.validate?_of_info present config Pass.all
  exact ⟨_, sites, validated, reported.imp fun site violation told => ⟨told, told.pass_eq⟩, sorted⟩

theorem rough_in_order : Document.rough.info = some {} ∧
    ∃ violations sites, ({} : Validator).validate? .rough {} = some violations ∧ violations.length = 13 ∧
      List.Forall₂ (fun site violation => Document.rough.Reports {} site violation ∧ violation.pass = site.pass)
        sites violations ∧
      sites.Pairwise Site.Earlier := by
  obtain ⟨violations, sites, validated, reported, sorted⟩ := @validate?_in_order .rough _ rfl {}
  have length : (({} : Validator).validate? .rough {}).map List.length = some 13 := rfl
  rw [validated] at length
  exact ⟨rfl, violations, sites, validated, Option.some.inj length, reported, sorted⟩

end ApiStyle
