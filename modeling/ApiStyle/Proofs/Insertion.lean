import ApiStyle.Proofs.Occurrences
import ApiStyle.Proofs.SeenIds

/-! Documents to which a path or a named schema is added. Its violations are located there, and they come in the
middle of a result; the others stay what they were and in their order. Only ids can reach from one path to another,
and they reach from the earlier to the later one. -/

namespace ApiStyle

variable {α : Type}

/-- The entry of a map of the document that a violation is located at. -/
inductive Address where
  | path (path : String)
  | schema (name : String)
deriving DecidableEq, Repr

namespace Violation

def address? : Violation → Option Address
  | generic .. => none
  | operation _ _ path _ => some (.path path)
  | model _ _ schema _ => some (.schema schema)
  | naming _ _ _ (.operation path _) => some (.path path)
  | naming _ _ _ (.model name) => some (.schema name)

def isElsewhere (address : Address) (violation : Violation) : Bool := violation.address? ≠ some address

private theorem address?_of_pass {violation : Violation}
    (general : violation.pass = .info ∨ violation.pass = .servers) :
    violation.address? = none := by
  cases violation with
  | generic part field message => rfl
  | naming subject kind issue place => cases issue <;> simp [pass] at general
  | _ => simp [pass] at general

end Violation

open Violation (isElsewhere)

/-- Violations that are all located at one entry, or at none. -/
def AllAt (address : Option Address) (found : List Violation) : Prop :=
  ∀ violation ∈ found, violation.address? = address

namespace AllAt

variable {found : List Violation} {address : Option Address} {removed : Address}

theorem filter_eq_self (located : AllAt address found) (apart : address ≠ some removed) :
    found.filter (isElsewhere removed) = found := by
  apply List.filter_eq_self.mpr
  intro violation member
  simp [isElsewhere, located violation member, apart]

private theorem filter_eq_nil (located : AllAt (some removed) found) : found.filter (isElsewhere removed) = [] := by
  apply List.filter_eq_nil_iff.mpr
  intro violation member
  simp [isElsewhere, located violation member]

private theorem flatMap {items : List α} {find : α → List Violation}
    (each : ∀ item ∈ items, AllAt address (find item)) :
    AllAt address (items.flatMap find) := by
  intro violation member
  obtain ⟨item, here, found⟩ := List.mem_flatMap.mp member
  exact each item here violation found

theorem filter_flatMap {entries : List (String × α)} {find : String × α → List Violation} (locate : String → Address)
    (each : ∀ entry, AllAt (some (locate entry.1)) (find entry)) (apart : ∀ entry ∈ entries, locate entry.1 ≠ removed) :
    (entries.flatMap find).filter (isElsewhere removed) = entries.flatMap find := by
  rw [List.filter_flatMap]
  apply List.flatMap_congr
  intro entry member
  apply (each entry).filter_eq_self
  intro same
  exact apart entry member (Option.some.inj same)

private theorem append {first rest : List Violation} (located : AllAt address first) (locatedToo : AllAt address rest) :
    AllAt address (first ++ rest) :=
  List.forall_mem_append.mpr ⟨located, locatedToo⟩

theorem filter_flatMap_insert {before after : List (String × α)} {key : String} {value : α}
    {find : String × α → List Violation} (locate : String → Address) (told : Function.Injective locate)
    (each : ∀ entry, AllAt (some (locate entry.1)) (find entry)) (fresh : key ∉ (before ++ after).map Prod.fst) :
    ((before ++ (key, value) :: after).flatMap find).filter (isElsewhere (locate key)) =
      (before ++ after).flatMap find := by
  have kept {entries : List (String × α)} (absent : key ∉ entries.map Prod.fst) :
      (entries.flatMap find).filter (isElsewhere (locate key)) = entries.flatMap find := by
    apply filter_flatMap locate each
    intro entry member same
    exact absent (told same ▸ List.mem_map_of_mem member)
  rw [List.map_append, List.mem_append, not_or] at fresh
  rw [List.flatMap_append, List.flatMap_cons, List.filter_append, List.filter_append, kept fresh.1, kept fresh.2,
    (each (key, value)).filter_eq_nil, List.nil_append, List.flatMap_append]

end AllAt

namespace Endpoint

private theorem allAt_check (config : Config) (seen : List String) (endpoint : Endpoint) :
    AllAt (some (.path endpoint.path)) (endpoint.check config seen) := by
  intro violation member
  rw [check_eq_filterMap] at member
  obtain ⟨made, _, found⟩ := List.mem_filterMap.mp member
  split at found
  · cases made with
    | missing detail =>
      rw [finding?] at found
      split at found
      · obtain rfl := Option.some.inj found
        cases detail <;> rfl
      · cases found
    | repeated =>
      obtain ⟨id, _, rfl⟩ := Option.map_eq_some_iff.mp found
      rfl
  · cases found

theorem mem_checkFrom {config : Config} {seen : List String} {endpoints : List Endpoint} {violation : Violation}
    (member : violation ∈ checkFrom config seen endpoints) :
    ∃ endpoint ∈ endpoints, violation.address? = some (.path endpoint.path) := by
  induction endpoints generalizing seen with
  | nil => cases member
  | cons endpoint rest ih =>
    rw [checkFrom] at member
    rcases List.mem_append.mp member with here | later
    · exact ⟨endpoint, List.mem_cons_self, allAt_check config seen endpoint violation here⟩
    · obtain ⟨follower, inside, located⟩ := ih later
      exact ⟨follower, List.mem_cons_of_mem _ inside, located⟩

end Endpoint

theorem allAt_checkModel (name : String) (schema : Schema) : AllAt (some (.schema name)) (checkModel name schema) := by
  intro violation member
  obtain ⟨⟨property, content⟩, _, found⟩ := List.mem_filterMap.mp member
  dsimp only at found
  split at found
  · obtain rfl := Option.some.inj found
    rfl
  · cases found

theorem allAt_checkPropertyNames (config : Config) (name : String) (schema : Schema) :
    AllAt (some (.schema name)) (checkPropertyNames config name schema) := by
  intro violation member
  obtain ⟨⟨property, content⟩, _, found⟩ := List.mem_filterMap.mp member
  dsimp only at found
  split at found
  · cases found
  · obtain rfl := Option.some.inj found
    rfl

theorem allAt_checkPathNames (config : Config) (path : String) (item : PathItem) :
    AllAt (some (.path path)) (checkPathNames config path item) := by
  apply AllAt.append
  · apply AllAt.flatMap
    intro (method, operation) _ violation member
    obtain ⟨parameter, _, found⟩ := List.mem_filterMap.mp member
    obtain ⟨name, _, found⟩ := Option.bind_eq_some_iff.mp found
    split at found
    · cases found
    · obtain rfl := Option.some.inj found
      rfl
  · intro violation member
    obtain ⟨segment, _, found⟩ := List.mem_filterMap.mp member
    split at found
    · cases found
    · obtain rfl := Option.some.inj found
      rfl

namespace Pass

theorem allAt_none {pass : Pass} (general : pass = .info ∨ pass = .servers) (subject : Subject) :
    AllAt none (pass.findings subject) := by
  intro violation member
  apply Violation.address?_of_pass
  rwa [pass_of_findings member]

theorem filter_contribution {pass : Pass} {document other : Document} {info : Info} {config : Config}
    {test : Violation → Bool}
    (kept : (pass.findings ⟨other, info, config⟩).filter test = pass.findings ⟨document, info, config⟩) :
    (pass.contribution ⟨other, info, config⟩).filter test = pass.contribution ⟨document, info, config⟩ := by
  unfold contribution
  split
  · exact kept
  · rfl

end Pass

namespace Document

def withPaths (document : Document) (paths : List (String × PathItem)) : Document := { document with paths }

def withSchemas (document : Document) (schemas : List (String × Schema)) : Document :=
  { document with components := some ⟨schemas⟩ }

end Document

/-- An operation of the item has the id. -/
def PathItem.Uses (item : PathItem) (id : String) : Prop :=
  ∃ method operation, item.operation? method = some operation ∧ operation.operationId = some id

/-- An operation of the document has the id. -/
def Document.Uses (document : Document) (id : String) : Prop :=
  ∃ path item, (path, item) ∈ document.paths ∧ item.Uses id

variable {document : Document} {info : Info} {config : Config}

section

variable {before after : List (String × PathItem)} {path : String} {item : PathItem}

private def endpointsOf (entry : String × PathItem) : List Endpoint :=
  entry.2.operations.map fun (method, operation) => ⟨entry.1, method, operation⟩

private theorem path_of_mem_endpointsOf {entry : String × PathItem} {endpoint : Endpoint}
    (member : endpoint ∈ endpointsOf entry) : endpoint.path = entry.1 := by
  obtain ⟨operation, _, rfl⟩ := List.mem_map.mp member
  rfl

private theorem uses_of_mem_endpointsOf {entry : String × PathItem} {endpoint : Endpoint} {id : String}
    (member : endpoint ∈ endpointsOf entry) (own : endpoint.id? = some id) : entry.2.Uses id := by
  obtain ⟨⟨method, operation⟩, inside, rfl⟩ := List.mem_map.mp member
  exact ⟨method, operation, PathItem.mem_operations.mp inside, (Endpoint.id?_eq_some.mp own).1⟩

private theorem elsewhere_checkFrom {entries : List (String × PathItem)} (absent : path ∉ entries.map Prod.fst)
    (seen : List String) :
    (Endpoint.checkFrom config seen (entries.flatMap endpointsOf)).filter (isElsewhere (.path path)) =
      Endpoint.checkFrom config seen (entries.flatMap endpointsOf) := by
  apply List.filter_eq_self.mpr
  intro violation member
  obtain ⟨endpoint, inside, located⟩ := Endpoint.mem_checkFrom member
  obtain ⟨entry, here, inside⟩ := List.mem_flatMap.mp inside
  have other : endpoint.path ≠ path := by
    intro same
    rw [path_of_mem_endpointsOf inside] at same
    exact absent (same ▸ List.mem_map_of_mem here)
  simp [isElsewhere, located, other]

private theorem here_checkFrom (seen : List String) :
    (Endpoint.checkFrom config seen (endpointsOf (path, item))).filter (isElsewhere (.path path)) = [] := by
  apply List.filter_eq_nil_iff.mpr
  intro violation member
  obtain ⟨endpoint, inside, located⟩ := Endpoint.mem_checkFrom member
  have same : endpoint.path = path := path_of_mem_endpointsOf inside
  simp [isElsewhere, located, same]

/-- The operations behind the new ones have seen more ids, but none that they have themselves. -/
theorem filter_checkOperations (parts : document.paths = before ++ after)
    (fresh : path ∉ document.paths.map Prod.fst)
    (unused : after = [] ∨ ∀ id, id ≠ "" → item.Uses id → ¬ document.Uses id) :
    (checkOperations config (document.withPaths (before ++ (path, item) :: after))).filter
      (isElsewhere (.path path)) = checkOperations config document := by
  have unseen (ids : List String) : Endpoint.checkFrom config
      (((endpointsOf (path, item)).filterMap Endpoint.id?).reverse ++ ids) (after.flatMap endpointsOf) =
        Endpoint.checkFrom config ids (after.flatMap endpointsOf) := by
    apply Endpoint.checkFrom_congr
    intro endpoint member id own
    obtain ⟨entry, here, inside⟩ := List.mem_flatMap.mp member
    rw [List.mem_append, List.mem_reverse, or_iff_right]
    intro new
    obtain ⟨newcomer, added, ownToo⟩ := List.mem_filterMap.mp new
    rcases unused with rfl | unused
    · cases here
    · have behind : entry ∈ document.paths := by
        rw [parts]
        exact List.mem_append_right before here
      exact unused id (Endpoint.id?_eq_some.mp own).2 (uses_of_mem_endpointsOf added ownToo)
        ⟨entry.1, entry.2, behind, uses_of_mem_endpointsOf inside own⟩
  rw [parts, List.map_append, List.mem_append, not_or] at fresh
  have whole : document.endpoints = before.flatMap endpointsOf ++ after.flatMap endpointsOf := by
    rw [← List.flatMap_append, ← parts]
    rfl
  have extended : (document.withPaths (before ++ (path, item) :: after)).endpoints =
      before.flatMap endpointsOf ++ (endpointsOf (path, item) ++ after.flatMap endpointsOf) := by
    rw [← List.flatMap_cons, ← List.flatMap_append]
    rfl
  rw [checkOperations, checkOperations, whole, extended]
  simp only [Endpoint.checkFrom_append, List.filter_append, unseen, elsewhere_checkFrom fresh.1,
    elsewhere_checkFrom fresh.2, here_checkFrom, List.nil_append]

private theorem Pass.filter_findings_path (parts : document.paths = before ++ after)
    (fresh : path ∉ document.paths.map Prod.fst)
    (unused : after = [] ∨ ∀ id, id ≠ "" → item.Uses id → ¬ document.Uses id) (pass : Pass) :
    (pass.findings ⟨document.withPaths (before ++ (path, item) :: after), info, config⟩).filter
      (isElsewhere (.path path)) = pass.findings ⟨document, info, config⟩ := by
  cases pass with
  | info => exact (allAt_none (.inl rfl) _).filter_eq_self (by simp)
  | servers => exact (allAt_none (.inr rfl) _).filter_eq_self (by simp)
  | operations => exact filter_checkOperations parts fresh unused
  | models =>
    exact AllAt.filter_flatMap .schema (fun entry => allAt_checkModel entry.1 entry.2) (by simp)
  | naming =>
    change ((document.schemas.flatMap _) ++ _).filter _ = checkNames config document
    rw [List.filter_append, checkNames]
    congr 1
    · exact AllAt.filter_flatMap .schema (fun entry => allAt_checkPropertyNames config entry.1 entry.2) (by simp)
    · rw [parts] at fresh ⊢
      exact AllAt.filter_flatMap_insert .path (fun _ _ => Address.path.inj)
        (fun entry => allAt_checkPathNames config entry.1 entry.2) fresh

end

section

variable {before after : List (String × Schema)} {name : String} {schema : Schema}

private theorem Pass.filter_findings_schema (parts : document.schemas = before ++ after)
    (fresh : name ∉ document.schemas.map Prod.fst) (pass : Pass) :
    (pass.findings ⟨document.withSchemas (before ++ (name, schema) :: after), info, config⟩).filter
      (isElsewhere (.schema name)) = pass.findings ⟨document, info, config⟩ := by
  rw [parts] at fresh
  cases pass with
  | info => exact (allAt_none (.inl rfl) _).filter_eq_self (by simp)
  | servers => exact (allAt_none (.inr rfl) _).filter_eq_self (by simp)
  | operations =>
    change (checkOperations config document).filter _ = checkOperations config document
    apply List.filter_eq_self.mpr
    intro violation member
    obtain ⟨endpoint, _, located⟩ := Endpoint.mem_checkFrom member
    simp [isElsewhere, located]
  | models =>
    change _ = checkModels document
    rw [checkModels, parts]
    exact AllAt.filter_flatMap_insert .schema (fun _ _ => Address.schema.inj)
      (fun entry => allAt_checkModel entry.1 entry.2) fresh
  | naming =>
    change (_ ++ document.paths.flatMap _).filter _ = checkNames config document
    rw [List.filter_append, checkNames, parts]
    congr 1
    · exact AllAt.filter_flatMap_insert .schema (fun _ _ => Address.schema.inj)
        (fun entry => allAt_checkPropertyNames config entry.1 entry.2) fresh
    · exact AllAt.filter_flatMap .path (fun entry => allAt_checkPathNames config entry.1 entry.2) (by simp)

end

/-- What is found with one path or schema more is what was found without it, in the same order, once the violations
at the new entry are left out. A path in front of others must not bring ids that the document uses. -/
theorem validate?_insert {document : Document} {info : Info} (present : document.info = some info) (config : Config) :
    (∀ before after path item, document.paths = before ++ after → path ∉ document.paths.map Prod.fst →
      (after = [] ∨ ∀ id, id ≠ "" → item.Uses id → ¬ document.Uses id) →
      ∃ violations found, ({} : Validator).validate? document config = some violations ∧
        ({} : Validator).validate? (document.withPaths (before ++ (path, item) :: after)) config = some found ∧
        found.filter (isElsewhere (.path path)) = violations) ∧
    ∀ before after name schema, document.schemas = before ++ after → name ∉ document.schemas.map Prod.fst →
      ∃ violations found, ({} : Validator).validate? document config = some violations ∧
        ({} : Validator).validate? (document.withSchemas (before ++ (name, schema) :: after)) config =
          some found ∧
        found.filter (isElsewhere (.schema name)) = violations := by
  constructor
  · intro before after path item parts fresh unused
    have presentToo : (document.withPaths (before ++ (path, item) :: after)).info = some info := present
    refine ⟨_, _, Validator.validate?_of_info present config Pass.all,
      Validator.validate?_of_info presentToo config Pass.all, ?_⟩
    rw [List.filter_flatMap]
    apply List.flatMap_congr
    intro pass _
    exact Pass.filter_contribution (pass.filter_findings_path parts fresh unused)
  · intro before after name schema parts fresh
    have presentToo : (document.withSchemas (before ++ (name, schema) :: after)).info =
        some info := present
    refine ⟨_, _, Validator.validate?_of_info present config Pass.all,
      Validator.validate?_of_info presentToo config Pass.all, ?_⟩
    rw [List.filter_flatMap]
    apply List.flatMap_congr
    intro pass _
    exact Pass.filter_contribution (pass.filter_findings_schema parts fresh)

/-- A path with an id that is not used yet goes before all others, and one with an id that is used behind them. -/
theorem rough_insert : Document.rough.info = some {} ∧
    (∃ violations found, ({} : Validator).validate? .rough {} = some violations ∧
      ({} : Validator).validate? (Document.rough.withPaths
        ([] ++ ("/Users", { get := some { operationId := some "users" } }) :: Document.rough.paths)) {} = some found ∧
      found.length = 17 ∧ found.filter (isElsewhere (.path "/Users")) = violations) ∧
    (∃ violations found, ({} : Validator).validate? .rough {} = some violations ∧
      ({} : Validator).validate? (Document.rough.withPaths
        (Document.rough.paths ++ [("/Users", { get := some { operationId := some "list" } })])) {} = some found ∧
      found.length = 18 ∧ found.filter (isElsewhere (.path "/Users")) = violations) ∧
    ∃ violations found, ({} : Validator).validate? .rough {} = some violations ∧
      ({} : Validator).validate? (Document.rough.withSchemas
        ([] ++ ("User", .mk none none [("Name", .mk none none [])]) :: Document.rough.schemas)) {} = some found ∧
      found.length = 15 ∧ found.filter (isElsewhere (.schema "User")) = violations := by
  obtain ⟨paths, schemas⟩ := @validate?_insert .rough _ rfl {}
  refine ⟨rfl, ?_, ?_, ?_⟩
  · have unused : ∀ id, id ≠ "" → PathItem.Uses { get := some { operationId := some "users" } } id →
        ¬ Document.rough.Uses id := by
      rintro id _ ⟨method, operation, present, own⟩ ⟨path, item, member, other, again, presentToo, ownToo⟩
      obtain ⟨rfl, rfl⟩ := Prod.mk.inj (List.mem_singleton.mp member)
      cases method <;> cases present
      cases own
      cases other <;> cases presentToo <;> simp at ownToo
    obtain ⟨violations, found, validated, extended, kept⟩ :=
      paths [] Document.rough.paths "/Users" _ rfl (by decide) (.inr unused)
    have length := congrArg (Option.map List.length) extended
    exact ⟨violations, found, validated, extended, Option.some.inj (length.symm.trans rfl), kept⟩
  · obtain ⟨violations, found, validated, extended, kept⟩ := paths Document.rough.paths [] "/Users"
      { get := some { operationId := some "list" } } (List.append_nil _).symm (by decide) (.inl rfl)
    have length := congrArg (Option.map List.length) extended
    exact ⟨violations, found, validated, extended, Option.some.inj (length.symm.trans rfl), kept⟩
  · obtain ⟨violations, found, validated, extended, kept⟩ := schemas [] Document.rough.schemas "User"
      (.mk none none [("Name", .mk none none [])]) rfl (by decide)
    have length := congrArg (Option.map List.length) extended
    exact ⟨violations, found, validated, extended, Option.some.inj (length.symm.trans rfl), kept⟩

end ApiStyle
