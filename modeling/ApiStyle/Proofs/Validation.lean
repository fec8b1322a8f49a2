import ApiStyle.Validator

/-! How a run is put together. A pass adds its contribution behind whatever was logged before it, so the
violations of a run are the contributions of its passes in order, and the theory of a validator comes down to
the theory of single passes. -/

namespace ApiStyle

namespace Method

theorem mem_all (method : Method) : method ∈ all := by
  cases method <;> decide

theorem nodup_all : all.Nodup := by decide

end Method

namespace PathItem

theorem mem_operations {item : PathItem} {method : Method} {operation : Operation} :
    (method, operation) ∈ item.operations ↔ item.operation? method = some operation := by
  simp only [operations, List.mem_filterMap, Option.map_eq_some_iff, Prod.mk.injEq]
  constructor
  · rintro ⟨other, _, found, present, rfl, rfl⟩
    exact present
  · intro present
    exact ⟨method, method.mem_all, operation, present, rfl, rfl⟩

end PathItem

/-- The name of a placeholder that no variable is declared for. -/
def Server.undeclared? (server : Server) : Template.Piece → Option String
  | .literal _ => none
  | .placeholder name => if (server.default? name).isSome then none else some (String.ofList name)

theorem Server.undeclared_eq (server : Server) : server.undeclared = server.pieces.filterMap server.undeclared? := rfl

/-- What a second group of endpoints reports depends on the first by its ids alone. -/
theorem Endpoint.checkFrom_append (config : Config) (seen : List String) (first rest : List Endpoint) :
    checkFrom config seen (first ++ rest) =
      checkFrom config seen first ++ checkFrom config ((first.filterMap id?).reverse ++ seen) rest := by
  induction first generalizing seen with
  | nil => rfl
  | cons endpoint others ih =>
    have ids : ((endpoint :: others).filterMap id?).reverse ++ seen =
        (others.filterMap id?).reverse ++ (endpoint.id?.toList ++ seen) := by
      cases own : endpoint.id? <;> simp [own]
    rw [List.cons_append, checkFrom, ih, checkFrom, ids, List.append_assoc]

theorem Endpoint.checkFrom_map {config other : Config} {change : Endpoint → Endpoint}
    (ids : ∀ endpoint, (change endpoint).id? = endpoint.id?)
    (same : ∀ seen endpoint, (change endpoint).check config seen = endpoint.check other seen) (seen : List String)
    (endpoints : List Endpoint) :
    checkFrom config seen (endpoints.map change) = checkFrom other seen endpoints := by
  induction endpoints generalizing seen with
  | nil => rfl
  | cons endpoint rest ih => rw [List.map_cons, checkFrom, checkFrom, ids, same, ih]

theorem Endpoint.checkFrom_of_check {config other : Config}
    (same : ∀ seen endpoint, check config seen endpoint = check other seen endpoint) (seen : List String)
    (endpoints : List Endpoint) : checkFrom config seen endpoints = checkFrom other seen endpoints := by
  have mapped := @checkFrom_map config other id (fun _ => rfl) same seen endpoints
  rwa [List.map_id] at mapped

namespace Pass

/-- What a pass adds to a run. -/
def contribution (pass : Pass) (subject : Subject) : List Violation :=
  if pass.isEnabled subject.config then pass.findings subject else []

theorem violations_run (pass : Pass) (subject : Subject) (sink : Sink) :
    (pass.run subject sink).violations = sink.violations ++ pass.contribution subject := by
  unfold run contribution
  split
  · rfl
  · exact (List.append_nil _).symm

end Pass

namespace Validator

private theorem violations_foldl (passes : List Pass) (subject : Subject) (sink : Sink) :
    (passes.foldl (fun sink pass => pass.run subject sink) sink).violations =
      sink.violations ++ passes.flatMap (·.contribution subject) := by
  induction passes generalizing sink with
  | nil => simp
  | cons pass passes ih =>
    rw [List.foldl_cons, ih, Pass.violations_run, List.flatMap_cons, List.append_assoc]

private theorem violations_run (validator : Validator) (subject : Subject) :
    (validator.run subject).violations = validator.passes.flatMap (·.contribution subject) := by
  unfold run
  rw [violations_foldl, List.nil_append]

theorem validate?_eq (validator : Validator) (document : Document) (config : Config) :
    validator.validate? document config =
      document.info.map fun info => validator.passes.flatMap (·.contribution ⟨document, info, config⟩) := by
  simp only [validate?, Subject.of?, Option.map_map, Function.comp_def, violations_run]

theorem validate?_of_info {document : Document} {info : Info} (present : document.info = some info) (config : Config)
    (passes : List Pass) : (⟨passes⟩ : Validator).validate? document config =
      some (passes.flatMap (·.contribution ⟨document, info, config⟩)) := by
  rw [validate?_eq, present, Option.map_some]

end Validator

/-- A document with faults for all passes but one: an id is repeated, and names do not follow their conventions. -/
def Document.rough : Document where
  info := some {}
  paths := [("/Pets", {
    get := some { operationId := some "list" }
    post := some { operationId := some "list", parameters := [{ name := some "page_size" }] } })]
  components := some ⟨[("Pet", .mk none none [("age", .mk none none [])])]⟩

end ApiStyle
