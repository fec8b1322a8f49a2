import ApiStyle.Violation.Basic

/-! Properties of the named schemas need an example, unless they refer to another schema. -/

namespace ApiStyle

def Schema.lacksExample (property : Schema) : Bool := !property.isReference && property.sample.isNone

def checkModel (name : String) (schema : Schema) : List Violation :=
  schema.properties.filterMap fun (property, content) =>
    if content.lacksExample then some (.missingModelAttribute name property "example") else none

def checkModels (document : Document) : List Violation :=
  document.schemas.flatMap fun (name, schema) => checkModel name schema

end ApiStyle
