import ApiStyle.Passes.Info

/-! Operations need an id that no operation before them has, a description, a summary and a tag. -/

namespace ApiStyle

/-- An operation with its place in the document. -/
structure Endpoint where
  path : String
  method : Method
  operation : Operation
deriving DecidableEq, Repr

namespace Document

/-- All operations, path by path. -/
def endpoints (document : Document) : List Endpoint :=
  document.paths.flatMap fun (path, item) =>
    item.operations.map fun (method, operation) => ⟨path, method, operation⟩

end Document

namespace Endpoint

/-- The id, unless it is empty. -/
def id? (endpoint : Endpoint) : Option String := endpoint.operation.operationId.filter (· ≠ "")

def missing (endpoint : Endpoint) (field : String) : Violation :=
  .missingOperationAttribute endpoint.path endpoint.method field

def checkId (config : Config) (endpoint : Endpoint) : List Violation :=
  if config.enabled .operationId && endpoint.id?.isNone then [endpoint.missing "operationId"] else []

/-- The id must not be among those seen before. -/
def checkUnique (config : Config) (seen : List String) (endpoint : Endpoint) : List Violation :=
  if config.enabled .operationIdUnique then
    match endpoint.id? with
    | some id => if id ∈ seen then [.repeatedOperationId id endpoint.path endpoint.method] else []
    | none => []
  else []

def checkTexts (config : Config) (endpoint : Endpoint) : List Violation :=
  (if config.enabled .operationDescription && !hasText endpoint.operation.description then
    [endpoint.missing "description"] else [])
    ++ (if config.enabled .operationSummary && !hasText endpoint.operation.summary then
      [endpoint.missing "summary"] else [])
    ++ (if config.enabled .operationTag && endpoint.operation.tags.all List.isEmpty then
      [.missingOperationItems endpoint.path endpoint.method "tags"] else [])

def check (config : Config) (seen : List String) (endpoint : Endpoint) : List Violation :=
  endpoint.checkId config ++ endpoint.checkUnique config seen ++ endpoint.checkTexts config

/-- Checks endpoints in order, each against the ids of those before it. -/
def checkFrom (config : Config) (seen : List String) : List Endpoint → List Violation
  | [] => []
  | endpoint :: rest => endpoint.check config seen ++ checkFrom config (endpoint.id?.toList ++ seen) rest

end Endpoint

def checkOperations (config : Config) (document : Document) : List Violation :=
  Endpoint.checkFrom config [] document.endpoints

end ApiStyle
