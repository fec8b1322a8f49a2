import ApiStyle.Text.White

/-! The switches that turn single rules on and off. -/

namespace ApiStyle

inductive Toggle where
  | infoLicense | infoDescription | infoContact | serverInfo
  | operationId | operationIdUnique | operationDescription | operationTag | operationSummary
  | propertyExample
  /-- kept for a rule that is not there yet -/
  | noLocalDefinition
  | naming
  /-- leaves out custom headers when names are checked -/
  | ignoreCustomHeader
deriving DecidableEq, Repr, Inhabited

namespace Toggle

def all : List Toggle :=
  [infoLicense, infoDescription, infoContact, serverInfo, operationId, operationIdUnique,
    operationDescription, operationTag, operationSummary, propertyExample, noLocalDefinition, naming,
    ignoreCustomHeader]

def id : Toggle → String
  | infoLicense => "validateInfoLicense"
  | infoDescription => "validateInfoDescription"
  | infoContact => "validateInfoContact"
  | serverInfo => "validateServerInfo"
  | operationId => "validateOperationOperationId"
  | operationIdUnique => "validateOperationOperationIdUnique"
  | operationDescription => "validateOperationDescription"
  | operationTag => "validateOperationTag"
  | operationSummary => "validateOperationSummary"
  | propertyExample => "validateModelPropertiesExample"
  | noLocalDefinition => "validateModelNoLocalDef"
  | naming => "validateNaming"
  | ignoreCustomHeader => "ignoreHeaderXNaming"

/-- Each large letter made small and set off by an underscore. -/
def underscored (character : Char) : List Char :=
  if 'A' ≤ character ∧ character ≤ 'Z' then ['_', character.toLower] else [character]

/-- The spelling with underscores. -/
def snakeId (toggle : Toggle) : String := String.ofList (toggle.id.toList.flatMap underscored)

/-- The environment variable that overrides a toggle. -/
def variableName (toggle : Toggle) : String :=
  "OAS_STYLE_" ++ String.ofList (toggle.snakeId.toList.map Char.toUpper)

/-- Either spelling, with white space around it. -/
def ofText? (text : String) : Option Toggle :=
  let text := Text.trim text
  all.find? fun toggle => toggle.id = text ∨ toggle.snakeId = text

end Toggle

end ApiStyle
