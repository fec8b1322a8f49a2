import ApiStyle.Decoding.Source
import ApiStyle.Text.Quoted

/-! Decoding from a JSON tree that is already there. Unlike a text it has no places, and an array
with too many items for a record is refused by its length. -/

namespace ApiStyle.Json

/-- Decoding of a tree: its result or why it was refused. -/
abbrev Content := Except Cause

namespace Content

def found : Json → Found
  | .null => .null
  | .bool value => .bool value
  | .number numeral =>
    match numeral.integer? with
    | some value => .integer value
    | none => .float (String.ofList numeral.text)
  | .string text => .string (Text.quoted text)
  | .array _ => .sequence
  | .object _ => .map

def mismatch (expected : String) (json : Json) : Content α := .error (.invalidType (found json) expected)

def text : Json → Content String
  | .string text => .ok text
  | other => mismatch "a string" other

def flag : Json → Content Bool
  | .bool value => .ok value
  | other => mismatch "a boolean" other

def items : Json → Content (List Json)
  | .array items => .ok items
  | other => mismatch "a sequence" other

def entriesFrom : Nat → List (String × Json) → List (Entry Content Json)
  | _, [] => []
  | index, (key, value) :: members =>
    ⟨.member index (some key), .ok key, value⟩ :: entriesFrom (index + 1) members

def record (expected : String) : Json → Content (Fields Content Json)
  | .object members => .ok (.named (entriesFrom 0 members))
  | .array items => .ok (.positional items)
  | other => mismatch expected other

def entries (expected : String) : Json → Content (List (Entry Content Json))
  | .object members => .ok (entriesFrom 0 members)
  | other => mismatch expected other

/-- What stands for the content of a variant without content. -/
def unit : Json → Content Unit
  | .null => .ok ()
  | .object [] => .ok ()
  | other => mismatch "unit" other

def variant (choose : String → Content α) : Json → Content α
  | .string name => choose name
  | .object [(name, value)] => do
    let chosen ← choose name
    unit value
    return chosen
  | .object _ => .error (.invalidValue .map "map with a single key")
  | other => mismatch "string or map" other

end Content

instance : Source Content Json where
  refuse _ cause := .error cause
  locating _ body := body
  within _ body := body
  resolve := .ok
  absent json := .ok (match json with | .null => true | _ => false)
  text := Content.text
  record := Content.record
  entries := Content.entries
  items := Content.items
  flag := Content.flag
  variant := Content.variant
  json _ json := .ok json.sorted
  overfull count total :=
    .error (.invalidLength total (toString count ++ (if count = 1 then " element" else " elements") ++ " in sequence"))
  leaf _ := .ok ()
  skip _ := .ok ()

end ApiStyle.Json
