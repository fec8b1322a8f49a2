import ApiStyle.Document.Basic
import ApiStyle.Table

/-! Building documents by hand. New entries come last, and a replaced one keeps its place. -/

namespace ApiStyle

def Server.withVariable (server : Server) (name default : String) : Server :=
  { server with bindings := Table.put name { default } server.bindings }

namespace Document

def addServer (document : Document) (server : Server) : Document :=
  { document with servers := document.servers ++ [server] }

def setOperation (document : Document) (path : String) (method : Method) (operation : Operation) : Document :=
  { document with paths := Table.modify path (·.setOperation method operation) document.paths }

def setSchema (document : Document) (name : String) (schema : Schema) : Document :=
  { document with components := some ⟨Table.put name schema document.schemas⟩ }

end Document

end ApiStyle
