import ApiStyle.Rules.Config
import ApiStyle.Text.Split
import ApiStyle.Violation.Basic

/-! Names of properties, parameters and literal path segments. -/

namespace ApiStyle

def startsWith (start text : String) : Bool := start.toList.isPrefixOf text.toList

namespace Parameter

/-- A header whose name starts like those that everyone makes up. -/
def isCustomHeader (parameter : Parameter) : Bool :=
  parameter.location = some .header && parameter.name.any (startsWith "X-")

/-- The name to check, unless the parameter is a reference or exempt. -/
def checkedName (config : Config) (parameter : Parameter) : Option String :=
  if parameter.reference.isSome || (parameter.isCustomHeader && config.enabled .ignoreCustomHeader) then none
  else parameter.name

end Parameter

/-- Whether a path segment starts and ends with the braces of a parameter. -/
def isBraced (segment : List Char) : Bool :=
  segment.head? = some '\x7b' && segment.getLast? = some '\x7d'

/-- The segments of a path that are neither empty nor a parameter. -/
def literalSegments (path : String) : List String :=
  ((Text.pieces '/' path.toList).filter fun segment => !segment.isEmpty && !isBraced segment).map String.ofList

def checkPropertyNames (config : Config) (name : String) (schema : Schema) : List Violation :=
  schema.properties.filterMap fun (property, _) =>
    if config.propertyNaming.accepts property then none
    else some (.badModelName property .property config.propertyNaming name)

def checkParameterNames (config : Config) (path : String) (method : Method) (operation : Operation) :
    List Violation :=
  operation.parameters.filterMap fun parameter =>
    (parameter.checkedName config).bind fun name =>
      if config.parameterNaming.accepts name then none
      else some (.badOperationName name .parameter config.parameterNaming path (some method))

def checkSegments (config : Config) (path : String) : List Violation :=
  (literalSegments path).filterMap fun segment =>
    if config.pathNaming.accepts segment then none
    else some (.badOperationName segment .path config.pathNaming path none)

def checkPathNames (config : Config) (path : String) (item : PathItem) : List Violation :=
  (item.operations.flatMap fun (method, operation) => checkParameterNames config path method operation)
    ++ checkSegments config path

def checkNames (config : Config) (document : Document) : List Violation :=
  (document.schemas.flatMap fun (name, schema) => checkPropertyNames config name schema)
    ++ (document.paths.flatMap fun (path, item) => checkPathNames config path item)

end ApiStyle
