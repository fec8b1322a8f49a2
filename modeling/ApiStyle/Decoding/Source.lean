import ApiStyle.Decoding.Cause
import ApiStyle.Json.Basic
import ApiStyle.Table

/-! What a format offers to the decoders of the document types. A decoder asks a node for the shape it
wants and meets parts in document order, so the first fault of a document is the one reported.
Faults are told relative to the container being decoded and gain their place on the way out. -/

namespace ApiStyle

/-- One level down into a container. The label of a member is absent if its key cannot be shown. -/
inductive Step where
  | member (index : Nat) (label : Option String)
  | item (index : Nat)
deriving DecidableEq, Repr

/-- How far the reading of a container had come when its decoder refused. -/
inductive Spot where
  | before
  /-- at the first character of the value -/
  | ahead
  | key (index : Nat)
  | part (index : Nat)
  | after
deriving DecidableEq, Repr

structure Entry (m : Type → Type) (ν : Type) where
  step : Step
  key : m String
  value : ν

inductive Fields (m : Type → Type) (ν : Type) where
  | named (entries : List (Entry m ν))
  | positional (items : List ν)

class Source (m : Type → Type) (ν : outParam Type) extends Monad m where
  refuse {α : Type} : Spot → Cause → m α
  /-- Faults raised inside concern this node. -/
  locating {α : Type} : ν → m α → m α
  /-- Faults raised inside lie one step further down. -/
  within {α : Type} : Step → m α → m α
  /-- Follows a reference to another node. -/
  resolve : ν → m ν
  absent : ν → m Bool
  text : ν → m String
  record : String → ν → m (Fields m ν)
  entries : String → ν → m (List (Entry m ν))
  items : ν → m (List ν)
  flag : ν → m Bool
  /-- Chooses a variant by its name; whatever else the node holds is looked at afterwards. -/
  variant {α : Type} : (String → m α) → ν → m α
  /-- A value of any shape, with the number of containers that may nest in it. -/
  json : Nat → ν → m Json
  /-- Meets an array with more items than the record has fields, told by both numbers. -/
  overfull : Nat → Nat → m Unit
  /-- Refuses a container, because no more may nest. -/
  leaf : ν → m Unit
  /-- Reads over a node whose content does not matter. -/
  skip : ν → m Unit

namespace Source

variable {m : Type → Type} {ν : Type} [Source m ν] {α σ : Type}

def optional (decode : ν → m α) (node : ν) : m (Option α) := do
  let node ← resolve node
  if ← absent node then return none else return some (← decode node)

def itemsFrom (decode : ν → m α) : Nat → List ν → m (List α)
  | _, [] => pure []
  | index, item :: items => do
    let first ← within (.item index) (decode item)
    return first :: (← itemsFrom decode (index + 1) items)

def sequence (decode : ν → m α) (node : ν) : m (List α) := do
  itemsFrom decode 0 (← items (← resolve node))

def tableFrom (decode : ν → m α) : List (Entry m ν) → List (String × α) → m (List (String × α))
  | [], table => pure table
  | entry :: entries, table => do
    let key ← entry.key
    let value ← within entry.step (decode entry.value)
    tableFrom decode entries (Table.put key value table)

def table (decode : ν → m α) (node : ν) : m (List (String × α)) := do
  let node ← resolve node
  locating node do tableFrom decode (← entries "a map" node) []

/-- A field of a record with the way its value enters the record. -/
structure Field (m : Type → Type) (ν σ : Type) where
  name : String
  read : ν → σ → m σ

/-- Which fields of a record were given: by name, or the first so many. -/
inductive Given where
  | named (names : List String)
  | positional (count : Nat)

/-- What happens to fields that a record does not have. -/
inductive Unknown where
  | skipped | refused
deriving DecidableEq, Repr

def readNamed (unknown : Unknown) (fields : List (Field m ν σ)) : Nat → List (Entry m ν) → List String → σ → m (σ × Given)
  | _, [], seen, record => pure (record, .named seen)
  | index, entry :: entries, seen, record => do
    let key ← entry.key
    match fields.find? (·.name = key) with
    | none => do
      match unknown with
      | .skipped => skip entry.value
      | .refused => refuse (.key index) (.unknownField key (fields.map Field.name))
      readNamed unknown fields (index + 1) entries seen record
    | some field =>
      if key ∈ seen then refuse (.key index) (.duplicateField key)
      else do
        let record ← within entry.step (field.read entry.value record)
        readNamed unknown fields (index + 1) entries (key :: seen) record

def readPositional : Nat → List (Field m ν σ) → List ν → σ → m (σ × Given)
  | count, _, [], record => pure (record, .positional count)
  | count, [], item :: items, record => do
    overfull count (count + (item :: items).length)
    return (record, .positional count)
  | count, field :: fields, item :: items, record => do
    let record ← within (.item count) (field.read item record)
    readPositional (count + 1) fields items record

/-- Reads a record field by field on top of the default, and lets `finish` see which fields were given. -/
def readRecordWith (unknown : Unknown) (expected : String) (fields : List (Field m ν σ)) (initial : σ) (node : ν)
    (finish : σ → Given → m α) : m α := do
  let node ← resolve node
  locating node do
    let (record, given) ← match ← record expected node with
      | .named entries => readNamed unknown fields 0 entries [] initial
      | .positional items => readPositional 0 fields items initial
    finish record given

def readRecord (expected : String) (fields : List (Field m ν σ)) (initial : σ) (node : ν)
    (finish : σ → Given → m α) : m α :=
  readRecordWith .skipped expected fields initial node finish

/-- Insists on the fields with the given names, or on as many items as a record by position must have. -/
def require (names : List String) (count : Nat) (expected : String) : Given → m Unit
  | .named given =>
    match names.find? fun name => name ∉ given with
    | some name => refuse .after (.missingField name)
    | none => pure ()
  | .positional given =>
    if given < count then refuse .after (.invalidLength given expected) else pure ()

/-- Reads a record all of whose fields may be left out. -/
def readDefaulted (expected : String) (fields : List (Field m ν σ)) (initial : σ) (node : ν) : m σ :=
  readRecord expected fields initial node fun record _ => pure record

end Source

end ApiStyle
