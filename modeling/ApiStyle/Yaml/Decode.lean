import ApiStyle.Yaml.Node
import ApiStyle.Yaml.Resolve
import ApiStyle.Decimal.Positional
import ApiStyle.Decoding.Source
import ApiStyle.Text.Quoted

/-! Decoding from YAML text. A text is wanted wherever a scalar stands, an empty plain scalar is also an
empty map or sequence, records are read from mappings only, and aliases are followed. At most 128 containers
may nest where the content matters, and aliases are followed at most a hundred times per place in the text. -/

namespace ApiStyle.Yaml

inductive Fault where
  | malformed (fault : Malformed)
  /-- a refusal that does not know yet which node it concerns -/
  | unplaced (cause : Cause)
  /-- a refusal of the node at a position, with the steps to it -/
  | refused (path : List Step) (position : Position) (cause : Cause)
  | tooDeep (position : Position)
  | tooManyAliases
  | moreDocuments
deriving DecidableEq, Repr

namespace Fault

def under (step : Step) : Fault → Fault
  | refused path position cause => refused (step :: path) position cause
  | fault => fault

def place (position : Position) : Fault → Fault
  | unplaced cause => refused [] position cause
  | fault => fault

/-- A path in words: labels joined by dots, `?` for a key that cannot be shown, indices in brackets. -/
def pathText (path : List Step) : String :=
  path.foldl (fun text step => match step with
    | .member _ label => (if text.isEmpty then "" else text ++ ".") ++ label.getD "?"
    | .item index => (if text.isEmpty then "." else text) ++ "[" ++ toString index ++ "]") ""

/-- The text of a fault without its position, except for texts that are not YAML. -/
def message : Fault → String
  | malformed fault => fault.message
  | unplaced cause => cause.message
  | refused path _ cause => (if path.isEmpty then "" else pathText path ++ ": ") ++ cause.message
  | tooDeep _ => Cause.tooDeep.message
  | tooManyAliases => "repetition limit exceeded"
  | moreDocuments => "deserializing from YAML containing more than one document is not supported"

/-- The text of a fault with its position, where it has one. -/
def located (fault : Fault) : String :=
  match fault with
  | refused _ position _ => fault.message ++ position.suffix
  | tooDeep position => fault.message ++ position.suffix
  | _ => fault.message

end Fault

/-- The nodes that aliases stand for, and how often they may be followed. -/
structure Anchors where
  nodes : List (Nat × Node)
  limit : Nat

/-- Reading counts the aliases it follows. -/
abbrev Reading := ReaderT Anchors (StateT Nat (Except Fault))

def nestingLimit : Nat := 128

namespace Node

def fail (fault : Fault) : Reading α := fun _ _ => .error fault

def refuse (position : Position) (cause : Cause) : Reading α := fail (.refused [] position cause)

def position : Node → Position
  | .void => {}
  | .scalar head _ _ => head.position
  | .sequence head _ => head.position
  | .mapping head _ => head.position
  | .aliasTo position _ => position
  | .broken _ => {}

def mapFault (change : Fault → Fault) (body : Reading α) : Reading α :=
  fun anchors followed => (body anchors followed).mapError change

def resolve : Node → Reading Node
  | .aliasTo position target => fun anchors followed =>
    if anchors.limit < followed + 1 then .error .tooManyAliases
    else match anchors.nodes.lookup target with
      | some node => .ok (node, followed + 1)
      | none => .error (.malformed (.unknownAnchor position))
  | node => pure node

/-- The name of a tag that was given in the text, without its exclamation mark. -/
def localTag? (head : Head) : Option String :=
  head.tag.bind fun tag =>
    match tag.toList with
    | ['!'] => some "!"
    | '!' :: name => some (String.ofList name)
    | _ => none

def coreTag (name : String) : String := "tag:yaml.org,2002:" ++ name

def quoted (text : String) : Found := .string (Text.quoted text)

/-- What a scalar is, by its tag or by its form; a tag that does not fit is a refusal. -/
def scalarValue (head : Head) (style : Style) (text : String) : Except Cause Value :=
  let expect (value : Option Value) (expected : String) : Except Cause Value :=
    value.elim (.error (.invalidValue (quoted text) expected)) .ok
  let byForm := if style = .plain then Value.ofPlain text else .text
  match head.tag with
  | none => .ok byForm
  | some tag =>
    if tag = coreTag "bool" then expect ((Value.bool? text).map .bool) "a boolean"
    else if tag = coreTag "int" then expect ((Value.integer? text).map .integer) "an integer"
    else if tag = coreTag "float" then expect ((Value.float? text).map .float) "a float"
    else if tag = coreTag "null" then expect (if Value.isNull text then some .null else none) "null"
    else if (localTag? head).isSome then .ok byForm
    else .ok .text

def foundInteger (value : Int) : Found :=
  if fitsWord value then .integer value
  else .wide value (if value < 0 then "i128" else "u128")

def found (text : String) : Value → Found
  | .null => .unit
  | .bool value => .bool value
  | .integer value => foundInteger value
  | .float value => .float (positionalText value)
  | .text => quoted text

/-- Refuses a node whose shape is not the expected one. -/
def mismatch (expected : String) : Node → Reading α
  | .broken fault => fail (.malformed fault)
  | .void => refuse {} (.invalidType .unit expected)
  | .scalar head style text =>
    match scalarValue head style text with
    | .ok value => refuse head.position (.invalidType (found text value) expected)
    | .error cause => refuse head.position cause
  | .sequence head _ => refuse head.position (.invalidType .sequence expected)
  | .mapping head _ => refuse head.position (.invalidType .map expected)
  | .aliasTo position _ => refuse position (.invalidType .unit expected)

/-- The text of a scalar, whatever its tag. -/
def textAs (expected : String) (node : Node) : Reading String := do
  match ← resolve node with
  | .scalar _ _ text => return text
  | other => mismatch expected other

def isBlankScalar : Node → Bool
  | .scalar _ .plain "" => true
  | .void => true
  | _ => false

def label? : Node → Option String
  | .scalar _ _ text => some text
  | _ => none

def entriesFrom (expected : String) : Nat → List (Node × Node) → List (Entry Reading Node)
  | _, [] => []
  | index, (key, value) :: entries =>
    ⟨.member index (label? key), textAs expected key, value⟩ :: entriesFrom expected (index + 1) entries

def members (expected keyExpected : String) (node : Node) : Reading (List (Entry Reading Node)) :=
  match node with
  | .mapping _ entries => return entriesFrom keyExpected 0 entries
  | node => if isBlankScalar node then return [] else mismatch expected node

def items (node : Node) : Reading (List Node) :=
  match node with
  | .sequence _ items => return items
  | node => if isBlankScalar node then return [] else mismatch "a sequence" node

/-- Only a plain scalar can be absent; one that is tagged as null has to be written as null. -/
def absent : Node → Reading Bool
  | .broken fault => fail (.malformed fault)
  | .void => return true
  | .scalar head .plain text =>
    match head.tag with
    | none => return text.isEmpty || Value.isNull text
    | some tag =>
      if tag = coreTag "null" then
        if Value.isNull text then return true
        else fail (.unplaced (.invalidValue (quoted text) "null"))
      else return false
  | _ => return false

/-- Truth values are plain. -/
def flag (node : Node) : Reading Bool := do
  match ← resolve node with
  | .scalar head .plain text =>
    match Value.bool? text with
    | some value => return value
    | none => mismatch "a boolean" (.scalar head .plain text)
  | other => mismatch "a boolean" other

/-- A variant is named by a tag on a null, or by a scalar without a tag of its own. -/
def variant (choose : String → Reading α) (node : Node) : Reading α := do
  let untagged := "a YAML tag starting with '!'"
  match ← resolve node with
  | .scalar head style text =>
    match localTag? head with
    | none => choose text
    | some name =>
      let chosen ← choose name
      if style = .plain ∧ (text.isEmpty ∨ Value.isNull text) then return chosen
      else refuse head.position (.invalidValue (quoted text) "null")
  | .sequence head items => other (.sequence head items) head
  | .mapping head entries => other (.mapping head entries) head
  | node => mismatch untagged node
where
  other (node : Node) (head : Head) : Reading α :=
    match localTag? head with
    | none => mismatch "a YAML tag starting with '!'" node
    | some name => do
      let _ ← choose name
      mismatch "unit" node

def skip (node : Node) : Reading Unit :=
  match node.firstFault with
  | none => return ()
  | some fault => fail (.malformed fault)

def leaf (node : Node) : Reading Unit :=
  match node with
  | .sequence head _ => fail (.tooDeep head.position)
  | .mapping head _ => fail (.tooDeep head.position)
  | _ => return ()

/-- Numbers that have no JSON form are null, integers of more than 64 bits are refused. -/
def scalarJson (position : Position) (text : String) : Value → Reading Json
  | .null => return .null
  | .bool value => return .bool value
  | .integer value =>
    if fitsWord value then return .number (.ofInt value)
    else refuse position .jsonNumberOutOfRange
  | .float value => return ((Numeral.ofFloat? value).map Json.number).getD .null
  | .text => return .string text

def anyJson : String := "any valid JSON value"

def json : Nat → Node → Reading Json
  | depth, node => do
    match ← resolve node with
    | .broken fault => fail (.malformed fault)
    | .void => return .null
    | .aliasTo position _ => refuse position (.invalidType .unit anyJson)
    | .scalar head style text =>
      if (localTag? head).isSome then refuse head.position (.invalidType .enumeration anyJson)
      else match scalarValue head style text with
        | .ok value => scalarJson head.position text value
        | .error cause => refuse head.position cause
    | .sequence head items =>
      if (localTag? head).isSome then refuse head.position (.invalidType .enumeration anyJson)
      else match depth with
        | 0 => fail (.tooDeep head.position)
        | depth + 1 => do
          let items ← items.zipIdx.mapM fun (item, index) => mapFault (.under (.item index)) (json depth item)
          return .array items
    | .mapping head entries =>
      if (localTag? head).isSome then refuse head.position (.invalidType .enumeration anyJson)
      else match depth with
        | 0 => fail (.tooDeep head.position)
        | depth + 1 => do
          let members ← entries.zipIdx.mapM fun ((key, value), index) => do
            let name ← textAs (if index = 0 then "a string key" else "a string") key
            let value ← mapFault (.under (.member index (label? key))) (json depth value)
            return (name, value)
          return .object (Json.sortedMembers [] members)

end Node

instance : Source Reading Node where
  refuse _ cause := Node.fail (.unplaced cause)
  locating node body := Node.mapFault (.place node.position) body
  within step body := Node.mapFault (.under step) body
  resolve := Node.resolve
  absent := Node.absent
  text := Node.textAs "a string"
  record expected node := Fields.named <$> Node.members expected "field identifier" node
  entries expected node := Node.members expected "a string" node
  items := Node.items
  flag := Node.flag
  variant := Node.variant
  json := Node.json
  overfull _ _ := Node.fail (.unplaced .surplus)
  leaf := Node.leaf
  skip := Node.skip

/-- Decodes the only document of a text. -/
def decodeText (decode : Node → Reading α) (text : String) : Except Fault α := do
  let contents := Contents.ofText text.toList
  let anchors : Anchors := ⟨contents.root.anchored.reverse, contents.root.events * 100⟩
  let (value, _) ← decode contents.root anchors 0
  match contents.fault with
  | some fault => .error (.malformed fault)
  | none => if contents.more then .error .moreDocuments else .ok value

end ApiStyle.Yaml
