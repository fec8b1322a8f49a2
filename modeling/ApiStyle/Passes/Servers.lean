import ApiStyle.Rules.Config
import ApiStyle.Server.Template
import ApiStyle.Url.Check
import ApiStyle.Violation.Basic

/-! The urls of the servers: every placeholder needs a variable, and then the resolved url has to be well
formed. The bare slash always is. -/

namespace ApiStyle

def Server.check (config : Config) (server : Server) : List Violation :=
  match server.undeclared with
  | [] =>
    let url := server.resolved
    if url = "/" || Url.isValid config.extraDomains url then [] else [.invalidServerUrl url]
  | names => names.map (.undeclaredVariable server.url)

def checkServers (config : Config) (document : Document) : List Violation :=
  document.servers.flatMap (·.check config)

end ApiStyle
