import ApiStyle.Rules.Config
import ApiStyle.Violation.Basic

/-! License, description and contact of the document. -/

namespace ApiStyle

def hasText (text : Option String) : Bool := text.any (· ≠ "")

namespace Info

def checkLicense (info : Info) : List Violation :=
  match info.license with
  | none => [.missingAttribute .info "license"]
  | some license =>
    if hasText license.name || hasText license.url then []
    else [.missingAnyOf .info "license" ["name", "url"]]

def checkDescription (info : Info) : List Violation :=
  if hasText info.description then [] else [.missingAttribute .info "description"]

def checkContact (info : Info) : List Violation :=
  match info.contact with
  | none => [.missingAttribute .info "contact"]
  | some contact =>
    if hasText contact.name || hasText contact.url || hasText contact.email then []
    else [.missingAnyOf .info "contact" ["name", "url", "email"]]

def check (config : Config) (info : Info) : List Violation :=
  (if config.enabled .infoLicense then info.checkLicense else [])
    ++ (if config.enabled .infoDescription then info.checkDescription else [])
    ++ (if config.enabled .infoContact then info.checkContact else [])

end Info

end ApiStyle
