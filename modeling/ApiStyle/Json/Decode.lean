import ApiStyle.Json.Draft
import ApiStyle.Decimal.Nearest
import ApiStyle.Decoding.Source
import ApiStyle.Text.Quoted

/-! Decoding from JSON text. Objects and arrays are both read as records, arrays field by field;
`null` is an absent value; and at most 127 containers may nest where the content matters. -/

namespace ApiStyle.Json

inductive Fault where
  | malformed (fault : Malformed)
  /-- a refusal with the steps from the root to the container or value concerned -/
  | refused (trail : List Step) (spot : Spot) (cause : Cause)
deriving DecidableEq, Repr

namespace Fault

def under (step : Step) : Fault → Fault
  | malformed fault => malformed fault
  | refused trail spot cause => refused (step :: trail) spot cause

def message : Fault → String
  | malformed fault => fault.kind.message
  | refused _ _ cause => cause.message

end Fault

/-- How deep containers may nest. -/
def nestingLimit : Nat := 127

namespace Draft

def refuse (spot : Spot) (cause : Cause) : Except Fault α := .error (.refused [] spot cause)

/-- What a refused number is called; one that cannot be stored is refused as such. -/
def numberFound (numeral : Numeral) : Except Fault Found :=
  match numeral.canonical? with
  | none => refuse .after .numberOutOfRange
  | some stored =>
    match stored.integer? with
    | some value => .ok (.integer value)
    | none => .ok (.float (String.ofList stored.text))

/-- Refuses a value whose shape is not the expected one. Containers are refused unread. -/
def mismatch (expected : String) : Draft → Except Fault α
  | .broken fault => .error (.malformed fault)
  | .null => refuse .after (.invalidType .null expected)
  | .bool value => refuse .after (.invalidType (.bool value) expected)
  | .number numeral => do refuse .after (.invalidType (← numberFound numeral) expected)
  | .string (.ok text) => refuse .after (.invalidType (.string (Text.quoted text)) expected)
  | .string (.error fault) => .error (.malformed fault)
  | .array _ => refuse .before (.invalidType .sequence expected)
  | .object _ => refuse .before (.invalidType .map expected)

def ofText? (text : Except Malformed String) : Except Fault String := text.mapError .malformed

def entriesFrom : Nat → List (Except Malformed String × Draft) → List (Entry (Except Fault) Draft)
  | _, [] => []
  | index, (key, value) :: members =>
    ⟨.member index key.toOption, ofText? key, value⟩ :: entriesFrom (index + 1) members

def text : Draft → Except Fault String
  | .string text => ofText? text
  | other => mismatch "a string" other

def record (expected : String) : Draft → Except Fault (Fields (Except Fault) Draft)
  | .object members => .ok (.named (entriesFrom 0 members))
  | .array items => .ok (.positional items)
  | other => mismatch expected other

def entries (expected : String) : Draft → Except Fault (List (Entry (Except Fault) Draft))
  | .object members => .ok (entriesFrom 0 members)
  | other => mismatch expected other

def items : Draft → Except Fault (List Draft)
  | .array items => .ok items
  | other => mismatch "a sequence" other

def flag : Draft → Except Fault Bool
  | .bool value => .ok value
  | other => mismatch "a boolean" other

/-- A variant is its name, or an object whose one member has that name and the value null. -/
def variant (choose : String → Except Fault α) : Draft → Except Fault α
  | .string text => do choose (← ofText? text)
  | .object [] => refuse .after .notVariant
  | .object ((key, value) :: others) => do
    let name ← ofText? key
    let chosen ← choose name
    match value with
    | .null => if others.isEmpty then .ok chosen else refuse (.part 0) .notVariant
    | other => (mismatch "unit" other).mapError (.under (.member 0 (some name)))
  | .broken fault => .error (.malformed fault)
  | _ => refuse .ahead .notVariant

def skip (draft : Draft) : Except Fault Unit :=
  match draft.firstFault with
  | none => .ok ()
  | some fault => .error (.malformed fault)

def tooDeep : Except Fault α := refuse .ahead .tooDeep

def leaf : Draft → Except Fault Unit
  | .array _ => tooDeep
  | .object _ => tooDeep
  | _ => .ok ()

/-- The tree of a draft, at most so many containers deep, its numbers in canonical form. -/
def tree : Nat → Draft → Except Fault Json
  | _, .null => .ok .null
  | _, .bool value => .ok (.bool value)
  | _, .number numeral =>
    match numeral.canonical? with
    | none => refuse .after .numberOutOfRange
    | some stored => .ok (.number stored)
  | _, .string text => (ofText? text).map .string
  | _, .broken fault => .error (.malformed fault)
  | 0, _ => tooDeep
  | depth + 1, .array items => do
    let items ← items.zipIdx.mapM fun (item, index) => (tree depth item).mapError (.under (.item index))
    return .array items
  | depth + 1, .object members => do
    let members ← members.zipIdx.mapM fun ((key, value), index) => do
      let key ← ofText? key
      let value ← (tree depth value).mapError (.under (.member index (some key)))
      return (key, value)
    return .object members

/-- The tree of a draft as it is stored. -/
def json (depth : Nat) (draft : Draft) : Except Fault Json := (tree depth draft).map Json.sorted

end Draft

instance : Source (Except Fault) Draft where
  refuse := Draft.refuse
  locating _ body := body
  within step body := body.mapError (.under step)
  resolve := .ok
  absent
    | .null => .ok true
    | .broken fault => .error (.malformed fault)
    | _ => .ok false
  text := Draft.text
  record := Draft.record
  entries := Draft.entries
  items := Draft.items
  flag := Draft.flag
  variant := Draft.variant
  json := Draft.json
  overfull count _ := Draft.refuse (.part count) .surplus
  leaf := Draft.leaf
  skip := Draft.skip

/-- Decodes a text and refuses anything after the value. -/
def decodeText (decode : Draft → Except Fault α) (text : String) : Except Fault α := do
  let (draft, trailing) := Draft.ofText text.toList
  let value ← decode draft
  match trailing with
  | none => .ok value
  | some fault => .error (.malformed fault)

/-- The stored tree of a text. -/
def parse (text : String) : Except Fault Json := decodeText (Draft.json nestingLimit) text

end ApiStyle.Json
