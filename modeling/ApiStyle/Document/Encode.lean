import ApiStyle.Document.Basic

/-! The JSON form of a document. Absent fields are left out; `servers`, `paths`, the variables of a server, `schemas`
and the default of a variable are always written, the other lists and maps only if they have entries. -/

namespace ApiStyle

def optionalText (text : Option String) : Option Json := text.map .string

/-- A list that is left out when it is empty. -/
def nonEmptyStrings (items : List String) : Option Json :=
  if items.isEmpty then none else some (Json.strings items)

def License.toJson (license : License) : Json :=
  .record [("name", optionalText license.name), ("url", optionalText license.url)]

def Contact.toJson (contact : Contact) : Json :=
  .record [("name", optionalText contact.name), ("url", optionalText contact.url),
    ("email", optionalText contact.email)]

def Info.toJson (info : Info) : Json :=
  .record [("title", optionalText info.title), ("version", optionalText info.version),
    ("description", optionalText info.description), ("license", info.license.map License.toJson),
    ("contact", info.contact.map Contact.toJson)]

def ServerVariable.toJson (declared : ServerVariable) : Json :=
  .record [("default", some (.string declared.default)), ("enum", nonEmptyStrings declared.choices),
    ("description", optionalText declared.description)]

def Server.toJson (server : Server) : Json :=
  .record [("url", some (.string server.url)), ("description", optionalText server.description),
    ("variables", some (.object (server.bindings.map fun (name, declared) => (name, declared.toJson))))]

def Parameter.toJson (parameter : Parameter) : Json :=
  .record [("name", optionalText parameter.name),
    ("in", parameter.location.map fun location => .string location.name),
    ("$ref", optionalText parameter.reference)]

def Operation.toJson (operation : Operation) : Json :=
  .record [("operationId", optionalText operation.operationId), ("summary", optionalText operation.summary),
    ("description", optionalText operation.description), ("tags", operation.tags.map Json.strings),
    ("parameters", if operation.parameters.isEmpty then none
      else some (.array (operation.parameters.map Parameter.toJson)))]

def PathItem.toJson (item : PathItem) : Json :=
  .record [("get", item.get.map Operation.toJson), ("put", item.put.map Operation.toJson),
    ("post", item.post.map Operation.toJson), ("delete", item.delete.map Operation.toJson),
    ("options", item.options.map Operation.toJson), ("head", item.head.map Operation.toJson),
    ("patch", item.patch.map Operation.toJson), ("trace", item.trace.map Operation.toJson)]

mutual

def Schema.toJson : Schema → Json
  | .mk reference sample properties =>
    .record [("$ref", optionalText reference), ("example", sample),
      ("properties", if properties.isEmpty then none else some (.object (Schema.toJsonEntries properties)))]

def Schema.toJsonEntries : List (String × Schema) → List (String × Json)
  | [] => []
  | (name, schema) :: schemas => (name, Schema.toJson schema) :: Schema.toJsonEntries schemas

end

def Components.toJson (components : Components) : Json :=
  .object [("schemas", .object (Schema.toJsonEntries components.schemas))]

def Document.toJson (document : Document) : Json :=
  .record [("openapi", optionalText document.openapi), ("info", document.info.map Info.toJson),
    ("servers", some (.array (document.servers.map Server.toJson))),
    ("paths", some (.object (document.paths.map fun (path, item) => (path, item.toJson)))),
    ("components", document.components.map Components.toJson)]

end ApiStyle
