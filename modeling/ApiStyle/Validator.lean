import ApiStyle.Passes.Info
import ApiStyle.Passes.Models
import ApiStyle.Passes.Naming
import ApiStyle.Passes.Operations
import ApiStyle.Passes.Servers
import ApiStyle.Violation.Sink

/-! Passes, and validators that run a list of them over a document. -/

namespace ApiStyle

inductive Pass where
  | info | servers | operations | models | naming
deriving DecidableEq, Repr, Inhabited

/-- What passes work on: a document that has an info object. -/
structure Subject where
  document : Document
  info : Info
  config : Config

namespace Subject

def of? (document : Document) (config : Config) : Option Subject :=
  document.info.map fun info => ⟨document, info, config⟩

end Subject

namespace Pass

/-- The passes in the order in which a run makes them. -/
def all : List Pass := [info, servers, operations, models, naming]

def id : Pass → String
  | info => "info"
  | servers => "servers"
  | operations => "operations"
  | models => "models"
  | naming => "naming"

def name : Pass → String
  | info => "API Info"
  | servers => "Servers"
  | operations => "Operations"
  | models => "Models"
  | naming => "Naming"

def description : Pass → String
  | info => "License and contact must carry at least one non-empty field; description must be present"
  | servers => "Every URL placeholder needs a declared variable and the resolved URL must be well formed"
  | operations => "Operations need a unique operationId, a summary, a description and at least one tag"
  | models => "Schema properties that are not references must declare an example"
  | naming => "Property names, parameter names and literal path segments must follow their naming conventions"

def part : Pass → Section
  | info => .info
  | servers => .info
  | operations => .operation
  | models => .model
  | naming => .naming

/-- The toggles that shape a pass. -/
def toggles : Pass → List Toggle
  | info => [.infoLicense, .infoDescription, .infoContact]
  | servers => [.serverInfo]
  | operations =>
    [.operationId, .operationIdUnique, .operationDescription, .operationSummary, .operationTag]
  | models => [.propertyExample, .noLocalDefinition]
  | naming => [.naming, .ignoreCustomHeader]

/-- The toggles that can make a pass find something: a pass runs if one of them is on. -/
def effective : Pass → List Toggle
  | models => [.propertyExample]
  | naming => [.naming]
  | pass => pass.toggles

def isEnabled (pass : Pass) (config : Config) : Bool := pass.effective.any config.enabled

/-- What a pass finds, whether it is enabled or not. -/
def findings (pass : Pass) (subject : Subject) : List Violation :=
  match pass with
  | info => subject.info.check subject.config
  | servers => checkServers subject.config subject.document
  | operations => checkOperations subject.config subject.document
  | models => checkModels subject.document
  | naming => checkNames subject.config subject.document

def run (pass : Pass) (subject : Subject) (sink : Sink) : Sink :=
  if pass.isEnabled subject.config then sink.logAll (pass.findings subject) else sink

end Pass

structure Validator where
  passes : List Pass := Pass.all
deriving DecidableEq, Repr, Inhabited

namespace Validator

def run (validator : Validator) (subject : Subject) : Sink :=
  validator.passes.foldl (fun sink pass => pass.run subject sink) {}

/-- The violations of a document; one without an info object cannot be validated. -/
def validate? (validator : Validator) (document : Document) (config : Config) : Option (List Violation) :=
  (Subject.of? document config).map fun subject => (validator.run subject).violations

end Validator

/-- The pass that makes violations like this one. -/
def Violation.pass : Violation → Pass
  | generic _ field _ => if field = "server" then .servers else .info
  | operation .. => .operations
  | model .. => .models
  | naming _ _ .notUnique _ => .operations
  | naming _ _ (.convention _) _ => .naming

end ApiStyle
