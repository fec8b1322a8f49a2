import ApiStyle.Document.Decode
import ApiStyle.Failure

/-! Loading documents. A file is JSON if its extension says so, in letters of either case, and else YAML. -/

namespace ApiStyle.Document

def ofJson (text : String) : Except TextFault Document :=
  (Json.decodeText (decode Json.nestingLimit) text).mapError (.json text)

def ofYaml (text : String) : Except TextFault Document :=
  (Yaml.decodeText (decode Yaml.nestingLimit) text).mapError .yaml

def isJson (path : Path) : Bool :=
  match path.extension? with
  | some extension => extension.toList.map Char.toLower = ['j', 's', 'o', 'n']
  | none => false

def load (surroundings : Surroundings) (path : Path) : Except Failure Document :=
  match surroundings.look path with
  | none => .error (.noDocument path)
  | some (.error reason) => .error (.unreadable reason)
  | some (.ok text) => (if isJson path then ofJson text else ofYaml text).mapError (.badDocument (some path))

end ApiStyle.Document
