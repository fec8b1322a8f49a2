import ApiStyle.Violation.Basic
import ApiStyle.Naming.Decode
import ApiStyle.Json.Content
import ApiStyle.Json.Decode

/-! Violations as JSON. Objects with several forms name theirs in a member, the tag: `type` for a violation,
`issue` for what is wrong with a name and `scope` for its place. An array is read as well, with the
tag as its first item. -/

namespace ApiStyle

open Source

namespace Issue

def toJson : Issue → Json
  | convention expected =>
    .object [("issue", .string "convention"), ("expected", .string expected.designation)]
  | notUnique => .object [("issue", .string "not_unique")]

end Issue

namespace Place

def toJson : Place → Json
  | operation path method =>
    .object [("scope", .string "operation"), ("path", .string path),
      ("method", (method.map fun method => Json.string method.name).getD .null)]
  | model name => .object [("scope", .string "model"), ("model", .string name)]

end Place

namespace Violation

def toJson : Violation → Json
  | generic part field message =>
    .object [("type", .string "generic"), ("section", .string part.name), ("field", .string field),
      ("message", .string message)]
  | operation field message path method =>
    .object [("type", .string "operation"), ("field", .string field), ("message", .string message),
      ("path", .string path), ("method", .string method.name)]
  | model field message schema property =>
    .object [("type", .string "model"), ("field", .string field), ("message", .string message),
      ("model", .string schema), ("property", .string property)]
  | naming subject kind issue place =>
    .object [("type", .string "naming"), ("subject", .string subject), ("kind", .string kind.name),
      ("issue", issue.toJson), ("location", place.toJson)]

end Violation

namespace Json.Content

/-- A name among the known ones, or its index. -/
def tag (names : List String) : Json → Content String
  | .string name => if name ∈ names then .ok name else .error (.unknownVariant name names)
  | .number numeral =>
    match numeral.integer? with
    | some (.ofNat index) =>
      match names[index]? with
      | some name => .ok name
      | none => .error (.invalidValue (.integer index) ("variant index 0 <= i < " ++ toString names.length))
    | _ => mismatch "variant identifier" (.number numeral)
  | other => mismatch "variant identifier" other

/-- The tag and what remains without it. -/
def tagged (key : String) (names : List String) (expected : String) : Json → Content (String × Json)
  | .array [] => .error (.missingField key)
  | .array (first :: rest) => return (← tag names first, .array rest)
  | .object members =>
    match members.filter (·.1 = key) with
    | [] => .error (.missingField key)
    | [(_, value)] => return (← tag names value, .object (members.filter (·.1 ≠ key)))
    | (_, value) :: _ => do
      let _ ← tag names value
      .error (.duplicateField key)
  | other => mismatch expected other

end Json.Content

open Json (Content)

/-- Reads a variant that is told by one of the known names. -/
def chooseNamed (names : List (String × α)) (node : Json) : Content α :=
  variant (m := Content) (fun name =>
    match names.lookup name with
    | some value => .ok value
    | none => .error (.unknownVariant name (names.map Prod.fst))) node

def Section.decode : Json → Content Section :=
  chooseNamed ([Section.info, .naming, .operation, .model].map fun part => (part.name, part))

def Identifier.decode : Json → Content Identifier := chooseNamed (all.map fun kind => (kind.name, kind))

def Method.decode : Json → Content Method := chooseNamed (all.map fun method => (method.name, method))

namespace Issue

def decode (json : Json) : Content Issue := do
  let (tag, rest) ← Content.tagged "issue" ["convention", "not_unique"] "internally tagged enum NamingIssue" json
  if tag = "convention" then
    let expected := "struct variant NamingIssue::Convention"
    readRecord (m := Content) expected
      [⟨"expected", fun value _ => some <$> Convention.decode value⟩] none rest fun found given => do
        require (m := Content) ["expected"] 1 (expected ++ " with 1 element") given
        return .convention (found.getD default)
  else match rest with
    | .array (item :: items) => do
      overfull (m := Content) 0 (item :: items).length
      return .notUnique
    | _ => return .notUnique

end Issue

namespace Place

def decode (json : Json) : Content Place := do
  let (tag, rest) ← Content.tagged "scope" ["operation", "model"] "internally tagged enum NamingLocation" json
  if tag = "operation" then
    let expected := "struct variant NamingLocation::Operation"
    readRecord (m := Content) expected
      [⟨"path", fun value (_, method) => return (← Content.text value, method)⟩,
       ⟨"method", fun value (path, _) => return (path, ← optional Method.decode value)⟩] ("", none) rest
      fun (path, method) given => do
        require (m := Content) ["path"] 2 (expected ++ " with 2 elements") given
        return .operation path method
  else
    let expected := "struct variant NamingLocation::Model"
    readRecord (m := Content) expected [⟨"model", fun value _ => Content.text value⟩] "" rest fun name given => do
      require (m := Content) ["model"] 1 (expected ++ " with 1 element") given
      return .model name

end Place

namespace Violation

/-- The fields of all forms of a violation. -/
structure Parts where
  part : Section := default
  field : String := ""
  message : String := ""
  path : String := ""
  method : Method := default
  schema : String := ""
  property : String := ""
  kind : Identifier := default
  issue : Issue := default
  place : Place := default

def fieldPart : Field Content Json Parts :=
  ⟨"field", fun value parts => return { parts with field := ← text value }⟩

def messagePart : Field Content Json Parts :=
  ⟨"message", fun value parts => return { parts with message := ← text value }⟩

/-- Reads a form whose fields must all be there. -/
def readForm (expected : String) (fields : List (Field Content Json Parts)) (json : Json)
    (build : Parts → Violation) : Content Violation :=
  let expected := "struct variant Violation::" ++ expected
  readRecord (m := Content) expected fields {} json fun parts given => do
    require (m := Content) (fields.map Field.name) fields.length
      (expected ++ " with " ++ toString fields.length ++ " elements") given
    return build parts

def forms : List String := ["generic", "operation", "model", "naming"]

def decodeForm (form : String) (json : Json) : Content Violation :=
  if form = "generic" then
    readForm "Generic"
      [⟨"section", fun value parts => return { parts with part := ← Section.decode value }⟩, fieldPart, messagePart]
      json fun parts => .generic parts.part parts.field parts.message
  else if form = "operation" then
    readForm "Operation"
      [fieldPart, messagePart, ⟨"path", fun value parts => return { parts with path := ← text value }⟩,
       ⟨"method", fun value parts => return { parts with method := ← Method.decode value }⟩]
      json fun parts => .operation parts.field parts.message parts.path parts.method
  else if form = "model" then
    readForm "Model"
      [fieldPart, messagePart, ⟨"model", fun value parts => return { parts with schema := ← text value }⟩,
       ⟨"property", fun value parts => return { parts with property := ← text value }⟩]
      json fun parts => .model parts.field parts.message parts.schema parts.property
  else
    readForm "Naming"
      [⟨"subject", fun value parts => return { parts with field := ← text value }⟩,
       ⟨"kind", fun value parts => return { parts with kind := ← Identifier.decode value }⟩,
       ⟨"issue", fun value parts => return { parts with issue := ← Issue.decode value }⟩,
       ⟨"location", fun value parts => return { parts with place := ← Place.decode value }⟩]
      json fun parts => .naming parts.field parts.kind parts.issue parts.place

/-- The tag of a text is read before the rest of it, and by name only. -/
def readTag : Json.Draft → Except Json.Fault String
  | .string text => do
    let name ← Json.Draft.ofText? text
    if name ∈ forms then .ok name else Json.Draft.refuse .after (.unknownVariant name forms)
  | other => Json.Draft.mismatch "variant identifier" other

/-- The members of a text with the tag apart. -/
def splitMembers : List (Except Json.Malformed String × Json.Draft) →
    Option String → Except Json.Fault (Option String × List (String × Json))
  | [], tag => .ok (tag, [])
  | (key, value) :: members, tag => do
    let key ← Json.Draft.ofText? key
    if key = "type" then
      if tag.isSome then Json.Draft.refuse .after (.duplicateField key)
      else splitMembers members (some (← readTag value))
    else
      let value ← value.tree (Json.nestingLimit - 1)
      let (tag, rest) ← splitMembers members tag
      return (tag, (key, value) :: rest)

def decode (draft : Json.Draft) : Except Json.Fault Violation := do
  let (tag, rest) ← match draft with
    | .array [] => Json.Draft.refuse .after (.missingField "type")
    | .array (first :: rest) => do
      let tag ← readTag first
      pure (tag, Json.array (← rest.mapM (Json.Draft.tree (Json.nestingLimit - 1))))
    | .object members => do
      match ← splitMembers members none with
      | (some tag, rest) => pure (tag, Json.object rest)
      | (none, _) => Json.Draft.refuse .after (.missingField "type")
    | other => Json.Draft.mismatch "internally tagged enum Violation" other
  (decodeForm tag rest).mapError (.refused [] .after)

end Violation

end ApiStyle
