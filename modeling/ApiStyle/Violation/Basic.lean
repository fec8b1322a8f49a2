import ApiStyle.Document.Basic
import ApiStyle.Naming.Convention

/-! Violations: what a rule found, where in the document, and how that is said. -/

namespace ApiStyle

/-- The part of the document that a violation belongs to. -/
inductive Section where
  | info | naming | operation | model
deriving DecidableEq, Repr, Inhabited

namespace Section

def name : Section → String
  | info => "APIInfo"
  | naming => "Naming"
  | operation => "Operation"
  | model => "Model"

/-- The order of summaries. -/
def all : List Section := [info, operation, model, naming]

end Section

/-- The kind of a name. -/
inductive Identifier where
  | property | parameter | path | operationId
deriving DecidableEq, Repr, Inhabited

namespace Identifier

def all : List Identifier := [property, parameter, path, operationId]

def name : Identifier → String
  | property => "property"
  | parameter => "parameter"
  | path => "path"
  | operationId => "operationId"

end Identifier

/-- What is wrong with a name. -/
inductive Issue where
  | convention (expected : Convention)
  /-- it was used before -/
  | notUnique
deriving DecidableEq, Repr, Inhabited

namespace Issue

def message (kind : Identifier) : Issue → String
  | convention expected => kind.name ++ " should be in " ++ expected.designation
  | notUnique => kind.name ++ " should be UNIQUE"

end Issue

/-- Where a name stands. A path segment belongs to no single method. -/
inductive Place where
  | operation (path : String) (method : Option Method)
  | model (name : String)
deriving DecidableEq, Repr, Inhabited

namespace Place

def text : Place → String
  | operation path (some method) => "path: " ++ path ++ ", method: " ++ method.name
  | operation path none => "path: " ++ path
  | model name => "model: " ++ name

end Place

inductive Violation where
  | generic (part : Section) (field message : String)
  | operation (field message path : String) (method : Method)
  | model (field message schema property : String)
  | naming (subject : String) (kind : Identifier) (issue : Issue) (place : Place)
deriving DecidableEq, Repr, Inhabited

namespace Violation

def part : Violation → Section
  | generic part _ _ => part
  | operation .. => .operation
  | model .. => .model
  | naming .. => .naming

/-- The attribute or name that a violation is about. -/
def field : Violation → String
  | generic _ field _ => field
  | operation field _ _ _ => field
  | model field _ _ _ => field
  | naming subject _ _ _ => subject

def message : Violation → String
  | generic _ _ message => message
  | operation _ message _ _ => message
  | model _ message _ _ => message
  | naming _ kind issue _ => issue.message kind

def place : Violation → Option String
  | generic .. => none
  | operation _ _ path method => some (Place.operation path (some method)).text
  | model _ _ schema property => some ("model: " ++ schema ++ ", property: " ++ property)
  | naming _ _ _ place => some place.text

/-- A violation on one line. -/
def line (violation : Violation) : String :=
  "[" ++ violation.part.name ++ "] " ++ violation.field ++ ": " ++ violation.message
    ++ (violation.place.map fun place => " (" ++ place ++ ")").getD ""

def missingText : String := "Should be present and not empty"

def missingFieldText : String := "This field should be present and not empty"

def missingItemsText : String :=
  "The collection should be present and there should be at least one item in it"

def missingAttribute (part : Section) (field : String) : Violation := .generic part field missingText

/-- None of the fields of a parent carries a value. -/
def missingAnyOf (part : Section) (parent : String) (fields : List String) : Violation :=
  .generic part parent ("At least one of " ++ "|".intercalate fields ++ " should be present and not empty")

def missingOperationAttribute (path : String) (method : Method) (field : String) : Violation :=
  .operation field missingFieldText path method

def missingOperationItems (path : String) (method : Method) (field : String) : Violation :=
  .operation field missingItemsText path method

def missingModelAttribute (schema property field : String) : Violation :=
  .model field missingFieldText schema property

def badOperationName (name : String) (kind : Identifier) (expected : Convention) (path : String)
    (method : Option Method) : Violation :=
  .naming name kind (.convention expected) (.operation path method)

def repeatedOperationId (operationId path : String) (method : Method) : Violation :=
  .naming operationId .operationId .notUnique (.operation path (some method))

def badModelName (name : String) (kind : Identifier) (expected : Convention) (schema : String) : Violation :=
  .naming name kind (.convention expected) (.model schema)

/-- A placeholder in a server url that no variable is declared for. -/
def undeclaredVariable (url name : String) : Violation :=
  .generic .info "server" ("server url " ++ url ++ " has missing attribute \x7b" ++ name ++ "\x7d")

def invalidServerUrl (url : String) : Violation :=
  .generic .info "server" ("Invalid server url format: " ++ url)

end Violation

end ApiStyle
