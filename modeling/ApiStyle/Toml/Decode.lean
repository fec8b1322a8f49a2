import ApiStyle.Decimal.Positional
import ApiStyle.Decoding.Source
import ApiStyle.Text.Quoted
import ApiStyle.Toml.Text

/-! Decoding from TOML text. The keys of a table are met in their sorted order; an array is read as
a record too, and its surplus items do not count. -/

namespace ApiStyle.Toml

inductive Fault where
  | malformed (fault : Malformed)
  /-- an integer of more than 128 bits -/
  | integerOverflow (place : Place)
  /-- a number beyond all floats -/
  | floatOverflow (place : Place)
  /-- a refusal that knows only how far the reading of its container had come -/
  | unplaced (spot : Spot) (cause : Cause)
  | refused (place : Place) (cause : Cause)
deriving DecidableEq, Repr

namespace Fault

def message : Fault → String
  | malformed _ => "invalid text"
  | integerOverflow _ => "integer number overflowed"
  | floatOverflow _ => "floating-point number overflowed"
  | unplaced _ cause => cause.message
  | refused _ cause => cause.message

/-- Where a fault is; one without a place concerns the whole text. -/
def place? : Fault → Option Place
  | malformed fault => some fault.place
  | integerOverflow place => some place
  | floatOverflow place => some place
  | unplaced .. => none
  | refused place _ => some place

end Fault

structure Node where
  place : Place
  item : Item

namespace Node

def insertSorted (entry : Key × Place × Item) : Entries → Entries
  | [] => [entry]
  | other :: rest => if entry.1.name < other.1.name then entry :: other :: rest else other :: insertSorted entry rest

def sorted (entries : Entries) : Entries := entries.foldl (fun done entry => insertSorted entry done) []

def foundInteger (place : Place) (value : Int) : Except Fault Found :=
  if fitsWord value then .ok (.integer value)
  else if fitsSigned 128 value then .ok (.wide value "i128")
  else if fitsUnsigned 128 value then .ok (.wide value "u128")
  else .error (.integerOverflow place)

def found (node : Node) : Except Fault Found :=
  match node.item with
  | .string text => .ok (.string (Text.quoted text))
  | .integer value => foundInteger node.place value
  | .float value => .ok (.float (positionalText value))
  | .beyond => .error (.floatOverflow node.place)
  | .bool value => .ok (.bool value)
  | .moment => .ok .map
  | .array _ => .ok .sequence
  | .tables _ => .ok .sequence
  | .table _ _ => .ok .map

/-- Refuses a node whose shape is not the expected one. -/
def mismatch (expected : String) (node : Node) : Except Fault α := do
  .error (.refused node.place (.invalidType (← node.found) expected))

def entriesFrom : Nat → Entries → List (Entry (Except Fault) Node)
  | _, [] => []
  | index, (key, place, item) :: entries =>
    ⟨.member index (some key.name), .ok key.name, ⟨place, item⟩⟩ :: entriesFrom (index + 1) entries

def items? (node : Node) : Option (List Node) :=
  match node.item with
  | .array items => some (items.map fun (place, item) => ⟨place, item⟩)
  | .tables items => some (items.map fun (place, entries) => ⟨place, .table .header entries⟩)
  | _ => none

def record (expected : String) (node : Node) : Except Fault (Fields (Except Fault) Node) :=
  match node.item with
  | .table _ entries => .ok (.named (entriesFrom 0 (sorted entries)))
  | _ => match node.items? with
    | some items => .ok (.positional items)
    | none => mismatch expected node

def entries (expected : String) (node : Node) : Except Fault (List (Entry (Except Fault) Node)) :=
  match node.item with
  | .table _ entries => .ok (entriesFrom 0 (sorted entries))
  | _ => mismatch expected node

def items (node : Node) : Except Fault (List Node) :=
  match node.items? with
  | some items => .ok items
  | none => mismatch "a sequence" node

def text (node : Node) : Except Fault String :=
  match node.item with
  | .string text => .ok text
  | _ => mismatch "a string" node

def flag (node : Node) : Except Fault Bool :=
  match node.item with
  | .bool value => .ok value
  | _ => mismatch "a boolean" node

/-- The place of a refusal: a key of the container, or the container itself. -/
def settle (node : Node) : Fault → Fault
  | .unplaced (.key index) cause =>
    match node.item with
    | .table _ entries => .refused (((sorted entries)[index]?.map fun (key, _) => key.place).getD node.place) cause
    | _ => .refused node.place cause
  | .unplaced _ cause => .refused node.place cause
  | fault => fault

end Node

instance : Source (Except Fault) Node where
  refuse spot cause := .error (.unplaced spot cause)
  locating node body := body.mapError node.settle
  within _ body := body
  resolve := .ok
  absent _ := .ok false
  text := Node.text
  flag := Node.flag
  record := Node.record
  entries := Node.entries
  items := Node.items
  variant choose node := do choose (← node.text)
  json _ node := node.mismatch "any valid JSON value"
  overfull _ _ := .ok ()
  leaf _ := .ok ()
  skip _ := .ok ()

/-- Decodes the root table of a text. -/
def decodeText (decode : Node → Except Fault α) (text : String) : Except Fault α := do
  let entries ← (parse text).mapError .malformed
  decode ⟨text.length, .table .header entries⟩

end ApiStyle.Toml
