import ApiStyle.Document.Basic
import ApiStyle.Decoding.Source

/-! Reading a document from any format. Unknown fields are skipped, a repeated field is refused, and
an absent one takes its default; of maps the last value of a key counts, in the place of the first.
Only schemas and examples nest without bound, so only their decoders count the containers. -/

namespace ApiStyle

open Source

variable {m : Type → Type} {ν : Type} [Source m ν]

def License.decode (node : ν) : m License :=
  readDefaulted "struct License"
    [⟨"name", fun value license => return { license with name := ← optional text value }⟩,
     ⟨"url", fun value license => return { license with url := ← optional text value }⟩]
    {} node

def Contact.decode (node : ν) : m Contact :=
  readDefaulted "struct Contact"
    [⟨"name", fun value contact => return { contact with name := ← optional text value }⟩,
     ⟨"url", fun value contact => return { contact with url := ← optional text value }⟩,
     ⟨"email", fun value contact => return { contact with email := ← optional text value }⟩]
    {} node

def Info.decode (node : ν) : m Info :=
  readDefaulted "struct Info"
    [⟨"title", fun value info => return { info with title := ← optional text value }⟩,
     ⟨"version", fun value info => return { info with version := ← optional text value }⟩,
     ⟨"description", fun value info => return { info with description := ← optional text value }⟩,
     ⟨"license", fun value info => return { info with license := ← optional License.decode value }⟩,
     ⟨"contact", fun value info => return { info with contact := ← optional Contact.decode value }⟩]
    {} node

def ServerVariable.decode (node : ν) : m ServerVariable :=
  readDefaulted "struct ServerVariable"
    [⟨"default", fun value declared => return { declared with default := ← text value }⟩,
     ⟨"enum", fun value declared => return { declared with choices := ← sequence text value }⟩,
     ⟨"description", fun value declared => return { declared with description := ← optional text value }⟩]
    {} node

/-- The only field that a document must have is the url of a server. -/
def Server.decode (node : ν) : m Server :=
  readRecord "struct Server"
    [⟨"url", fun value server => return { server with url := ← text value }⟩,
     ⟨"description", fun value server => return { server with description := ← optional text value }⟩,
     ⟨"variables", fun value server => return { server with bindings := ← table ServerVariable.decode value }⟩]
    {} node fun server given => do
      require ["url"] 1 "struct Server with 3 elements" given
      return server

def ParameterLocation.decode (node : ν) : m ParameterLocation :=
  variant (fun name => pure (ofName name)) node

def Parameter.decode (node : ν) : m Parameter :=
  readDefaulted "struct Parameter"
    [⟨"name", fun value parameter => return { parameter with name := ← optional text value }⟩,
     ⟨"in", fun value parameter =>
       return { parameter with location := ← optional ParameterLocation.decode value }⟩,
     ⟨"$ref", fun value parameter => return { parameter with reference := ← optional text value }⟩]
    {} node

def Operation.decode (node : ν) : m Operation :=
  readDefaulted "struct Operation"
    [⟨"operationId", fun value operation => return { operation with operationId := ← optional text value }⟩,
     ⟨"summary", fun value operation => return { operation with summary := ← optional text value }⟩,
     ⟨"description", fun value operation => return { operation with description := ← optional text value }⟩,
     ⟨"tags", fun value operation => return { operation with tags := ← optional (sequence text) value }⟩,
     ⟨"parameters", fun value operation =>
       return { operation with parameters := ← sequence Parameter.decode value }⟩]
    {} node

def PathItem.decode (node : ν) : m PathItem :=
  readDefaulted "struct PathItem"
    [⟨"get", fun value item => return { item with get := ← optional Operation.decode value }⟩,
     ⟨"put", fun value item => return { item with put := ← optional Operation.decode value }⟩,
     ⟨"post", fun value item => return { item with post := ← optional Operation.decode value }⟩,
     ⟨"delete", fun value item => return { item with delete := ← optional Operation.decode value }⟩,
     ⟨"options", fun value item => return { item with options := ← optional Operation.decode value }⟩,
     ⟨"head", fun value item => return { item with head := ← optional Operation.decode value }⟩,
     ⟨"patch", fun value item => return { item with patch := ← optional Operation.decode value }⟩,
     ⟨"trace", fun value item => return { item with trace := ← optional Operation.decode value }⟩]
    {} node

namespace Paths

/-- Keys that start so are extensions, whatever their value. -/
def isExtension (key : String) : Bool := "x-".toList.isPrefixOf key.toList

def decodeFrom : Nat → List (Entry m ν) → List (String × PathItem) → m (List (String × PathItem))
  | _, [], paths => pure paths
  | index, entry :: entries, paths => do
    let key ← entry.key
    if isExtension key then
      skip entry.value
      decodeFrom (index + 1) entries paths
    else
      let item ← within entry.step (PathItem.decode entry.value)
      if key ∈ paths.map Prod.fst then refuse (.part index) (.duplicatePath key)
      else decodeFrom (index + 1) entries (paths ++ [(key, item)])

/-- The path templates in document order. Extensions are dropped; any other key may occur once. -/
def decode (node : ν) : m (List (String × PathItem)) := do
  let node ← resolve node
  locating node do decodeFrom 0 (← entries "a map of path templates to path items" node) []

end Paths

/-- A schema with the number of containers that may nest in it. Its properties are two levels down. -/
def Schema.decode : Nat → ν → m Schema
  | 0, node => do
    let node ← resolve node
    let _ ← record (m := m) "struct Schema" node
    leaf node
    return .mk none none []
  | depth + 1, node =>
    let properties (value : ν) : m (List (String × Schema)) :=
      match depth with
      | 0 => do
        let value ← resolve value
        let _ ← entries (m := m) "a map" value
        leaf value
        return []
      | inner + 1 => table (Schema.decode inner) value
    readDefaulted "struct Schema"
      [⟨"$ref", fun value schema =>
         return .mk (← optional text value) schema.sample schema.properties⟩,
       ⟨"example", fun value schema =>
         return .mk schema.reference (← optional (json depth) value) schema.properties⟩,
       ⟨"properties", fun value schema =>
         return .mk schema.reference schema.sample (← properties value)⟩]
      (.mk none none []) node

def Components.decode (depth : Nat) (node : ν) : m Components :=
  readDefaulted "struct Components"
    [⟨"schemas", fun value components =>
       return { components with schemas := ← table (Schema.decode (depth - 2)) value }⟩]
    {} node

/-- A document with the number of containers that may nest in it. -/
def Document.decode (depth : Nat) (node : ν) : m Document :=
  readDefaulted "struct OpenApi"
    [⟨"openapi", fun value document => return { document with openapi := ← optional text value }⟩,
     ⟨"info", fun value document => return { document with info := ← optional Info.decode value }⟩,
     ⟨"servers", fun value document => return { document with servers := ← sequence Server.decode value }⟩,
     ⟨"paths", fun value document => return { document with paths := ← Paths.decode value }⟩,
     ⟨"components", fun value document =>
       return { document with components := ← optional (Components.decode (depth - 1)) value }⟩]
    {} node

end ApiStyle
