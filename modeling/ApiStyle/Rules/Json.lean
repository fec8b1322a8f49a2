import ApiStyle.Rules.Config
import ApiStyle.Naming.Decode

/-! The configuration as structured data. Every field may be left out. -/

namespace ApiStyle

open Source

namespace Config

/-- Each toggle under its own name, then the conventions and the domains. -/
def toJson (config : Config) : Json :=
  .object (Toggle.all.map (fun toggle => (toggle.id, .bool (config.enabled toggle))) ++
    [("pathNamingConvention", .string config.pathNaming.designation),
     ("parameterNamingConvention", .string config.parameterNaming.designation),
     ("propertyNamingConvention", .string config.propertyNaming.designation),
     ("additionalTopLevelDomains", Json.strings config.extraDomains)])

variable {m : Type → Type} {ν : Type} [Source m ν]

def toggleField (toggle : Toggle) : Field m ν Config :=
  ⟨toggle.id, fun value config => return config.set toggle (← flag value)⟩

def decode (node : ν) : m Config :=
  readDefaulted "struct ValidationConfig"
    (Toggle.all.map toggleField ++
      [⟨"pathNamingConvention", fun value config =>
         return { config with pathNaming := ← Convention.decode value }⟩,
       ⟨"parameterNamingConvention", fun value config =>
         return { config with parameterNaming := ← Convention.decode value }⟩,
       ⟨"propertyNamingConvention", fun value config =>
         return { config with propertyNaming := ← Convention.decode value }⟩,
       ⟨"additionalTopLevelDomains", fun value config =>
         return { config with extraDomains := ← sequence text value }⟩])
    {} node

end Config

end ApiStyle
