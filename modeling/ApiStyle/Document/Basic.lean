import ApiStyle.Json.Basic

/-! The part of an OpenAPI document that the style rules look at. Maps are lists of pairs in document
order; a document that was read has distinct keys in each of them. -/

namespace ApiStyle

structure License where
  name : Option String := none
  url : Option String := none
deriving DecidableEq, Repr, Inhabited

structure Contact where
  name : Option String := none
  url : Option String := none
  email : Option String := none
deriving DecidableEq, Repr, Inhabited

structure Info where
  title : Option String := none
  version : Option String := none
  description : Option String := none
  license : Option License := none
  contact : Option Contact := none
deriving DecidableEq, Repr, Inhabited

structure ServerVariable where
  default : String := ""
  choices : List String := []
  description : Option String := none
deriving DecidableEq, Repr, Inhabited

structure Server where
  url : String := ""
  description : Option String := none
  bindings : List (String × ServerVariable) := []
deriving DecidableEq, Repr, Inhabited

/-- The methods of a path item in the order in which they are visited. -/
inductive Method where
  | get | put | post | delete | options | head | patch | trace
deriving DecidableEq, Repr, Inhabited

namespace Method

def all : List Method := [get, put, post, delete, options, head, patch, trace]

def name : Method → String
  | get => "GET"
  | put => "PUT"
  | post => "POST"
  | delete => "DELETE"
  | options => "OPTIONS"
  | head => "HEAD"
  | patch => "PATCH"
  | trace => "TRACE"

def ofName? (name : String) : Option Method := all.find? (·.name = name)

end Method

inductive ParameterLocation where
  | query | header | path | cookie | other
deriving DecidableEq, Repr, Inhabited

namespace ParameterLocation

def name : ParameterLocation → String
  | query => "query"
  | header => "header"
  | path => "path"
  | cookie => "cookie"
  | other => "other"

/-- Any name that is not one of the four known ones counts as `other`. -/
def ofName (name : String) : ParameterLocation :=
  ([query, header, path, cookie].find? (·.name = name)).getD other

end ParameterLocation

structure Parameter where
  name : Option String := none
  location : Option ParameterLocation := none
  reference : Option String := none
deriving DecidableEq, Repr, Inhabited

structure Operation where
  operationId : Option String := none
  summary : Option String := none
  description : Option String := none
  tags : Option (List String) := none
  parameters : List Parameter := []
deriving DecidableEq, Repr, Inhabited

structure PathItem where
  get : Option Operation := none
  put : Option Operation := none
  post : Option Operation := none
  delete : Option Operation := none
  options : Option Operation := none
  head : Option Operation := none
  patch : Option Operation := none
  trace : Option Operation := none
deriving DecidableEq, Repr, Inhabited

namespace PathItem

def operation? (item : PathItem) : Method → Option Operation
  | .get => item.get
  | .put => item.put
  | .post => item.post
  | .delete => item.delete
  | .options => item.options
  | .head => item.head
  | .patch => item.patch
  | .trace => item.trace

def setOperation (item : PathItem) (method : Method) (operation : Operation) : PathItem :=
  match method with
  | .get => { item with get := some operation }
  | .put => { item with put := some operation }
  | .post => { item with post := some operation }
  | .delete => { item with delete := some operation }
  | .options => { item with options := some operation }
  | .head => { item with head := some operation }
  | .patch => { item with patch := some operation }
  | .trace => { item with trace := some operation }

/-- The operations that are present, in the order of `Method.all`. -/
def operations (item : PathItem) : List (Method × Operation) :=
  Method.all.filterMap fun method => (item.operation? method).map ((method, ·))

end PathItem

inductive Schema where
  | mk (reference : Option String) (sample : Option Json) (properties : List (String × Schema))
deriving Repr, Inhabited

namespace Schema

def reference : Schema → Option String
  | mk reference _ _ => reference

/-- The example value. -/
def sample : Schema → Option Json
  | mk _ sample _ => sample

def properties : Schema → List (String × Schema)
  | mk _ _ properties => properties

def isReference (schema : Schema) : Bool := schema.reference.isSome

end Schema

structure Components where
  schemas : List (String × Schema) := []
deriving Repr, Inhabited

structure Document where
  openapi : Option String := none
  info : Option Info := none
  servers : List Server := []
  paths : List (String × PathItem) := []
  components : Option Components := none
deriving Repr, Inhabited

namespace Document

/-- The named schemas in document order. -/
def schemas (document : Document) : List (String × Schema) :=
  (document.components.map Components.schemas).getD []

end Document

end ApiStyle
