import ApiStyle.Text.Position
import ApiStyle.Yaml.Lexer

/-! The tree of a YAML document, read from its tokens up to the first fault: there the tree holds a broken
leaf, and nothing follows that leaf in document order. Aliases are kept as the numbers of anchors. An
anchor gets as number how many names were in use before it, so two anchors share one if a name is used again;
such a number belongs to the last of them. -/

namespace ApiStyle.Yaml

structure Head where
  position : Position
  tag : Option String := none
  anchor : Option Nat := none
deriving DecidableEq, Repr

inductive Node where
  /-- a document without content -/
  | void
  | scalar (head : Head) (style : Style) (text : String)
  | sequence (head : Head) (items : List Node)
  | mapping (head : Head) (entries : List (Node × Node))
  | aliasTo (position : Position) (target : Nat)
  | broken (fault : Malformed)
deriving Repr, Inhabited

namespace Node

def empty (position : Position) : Node := .scalar { position } .plain ""

mutual

/-- How many places a reader passes: a container counts at its start and at its end. -/
def events : Node → Nat
  | .sequence _ items => 2 + eventsOfItems items
  | .mapping _ entries => 2 + eventsOfEntries entries
  | .broken _ => 0
  | _ => 1

def eventsOfItems : List Node → Nat
  | [] => 0
  | item :: items => events item + eventsOfItems items

def eventsOfEntries : List (Node × Node) → Nat
  | [] => 0
  | (key, value) :: entries => events key + events value + eventsOfEntries entries

end

mutual

/-- The fault that stops a reader who wants none of the values. Aliases are not followed. -/
def firstFault : Node → Option Malformed
  | .broken fault => some fault
  | .sequence _ items => firstFaultOfItems items
  | .mapping _ entries => firstFaultOfEntries entries
  | _ => none

def firstFaultOfItems : List Node → Option Malformed
  | [] => none
  | item :: items => (firstFault item).or (firstFaultOfItems items)

def firstFaultOfEntries : List (Node × Node) → Option Malformed
  | [] => none
  | (key, value) :: entries => (firstFault key).or ((firstFault value).or (firstFaultOfEntries entries))

end

def mark (head : Head) (node : Node) : List (Nat × Node) := (head.anchor.map ((·, node))).toList

mutual

/-- The nodes that have anchors, in document order. -/
def anchored : Node → List (Nat × Node)
  | .scalar head style text => mark head (.scalar head style text)
  | .sequence head items => mark head (.sequence head items) ++ anchoredItems items
  | .mapping head entries => mark head (.mapping head entries) ++ anchoredEntries entries
  | _ => []

def anchoredItems : List Node → List (Nat × Node)
  | [] => []
  | item :: items => anchored item ++ anchoredItems items

def anchoredEntries : List (Node × Node) → List (Nat × Node)
  | [] => []
  | (key, value) :: entries => anchored key ++ anchored value ++ anchoredEntries entries

end

end Node

/-- The tokens of a document with the tag handles and anchors that are known. -/
structure Reader where
  lexer : Lexer
  handles : List (String × String) := []
  anchors : List (String × Nat) := []

namespace Reader

def peek (reader : Reader) : Except Malformed (Placed × Reader) := do
  let (placed, lexer) ← reader.lexer.peek
  return (placed, { reader with lexer })

def drop (reader : Reader) : Reader := { reader with lexer := reader.lexer.drop }

/-- Gives a name the next number. -/
def declare (reader : Reader) (name : String) : Nat × Reader :=
  let number := reader.anchors.length
  (number, { reader with anchors := (name, number) :: reader.anchors.filter (·.1 ≠ name) })

def standardHandles : List (String × String) := [("!", "!"), ("!!", "tag:yaml.org,2002:")]

/-- What stands before the content of a node. -/
structure Properties where
  start : Position
  anchor : Option String := none
  tag : Option String := none

def expandTag (reader : Reader) (start place : Position) (handle suffix : String) : Except Malformed String :=
  if handle.isEmpty then .ok suffix
  else match reader.handles.lookup handle with
    | some target => .ok (target ++ suffix)
    | none => complain .undefinedHandle place .node start

/-- An anchor and a tag in either order, and the token after them. A tag is looked up last. -/
def readProperties (reader : Reader) : Except Malformed (Properties × Placed × Reader) := do
  let (first, reader) ← reader.peek
  match first.token with
  | .anchor name =>
    let (second, reader) ← reader.drop.peek
    match second.token with
    | .tag handle suffix =>
      let (next, reader) ← reader.drop.peek
      let tag ← reader.expandTag first.start second.start handle suffix
      return (⟨first.start, some name, some tag⟩, next, reader)
    | _ => return (⟨first.start, some name, none⟩, second, reader)
  | .tag handle suffix =>
    let (second, reader) ← reader.drop.peek
    match second.token with
    | .anchor name =>
      let (next, reader) ← reader.drop.peek
      let tag ← reader.expandTag first.start first.start handle suffix
      return (⟨first.start, some name, some tag⟩, next, reader)
    | _ =>
      let tag ← reader.expandTag first.start first.start handle suffix
      return (⟨first.start, none, some tag⟩, second, reader)
  | _ => return (⟨first.start, none, none⟩, first, reader)

/-- The head of a node, its anchor declared. -/
def head (reader : Reader) (properties : Properties) : Head × Reader :=
  match properties.anchor with
  | none => ({ position := properties.start, tag := properties.tag }, reader)
  | some name =>
    let (number, reader) := reader.declare name
    ({ position := properties.start, tag := properties.tag, anchor := some number }, reader)

/-- Nothing can be read after a fault. -/
def stop (fault : Malformed) : Node × Option Reader := (.broken fault, none)

def stopItems (fault : Malformed) : List Node × Option Reader := ([.broken fault], none)

def stopEntries (fault : Malformed) : List (Node × Node) × Option Reader := ([(.broken fault, .void)], none)

def isValueOrEnd : Token → Bool
  | .key => true
  | .value => true
  | .blockEnd => true
  | _ => false

def endsFlowMember : Token → Bool
  | .value => true
  | .flowEntry => true
  | .flowMappingEnd => true
  | _ => false

def endsFlowPairKey : Token → Bool
  | .value => true
  | .flowEntry => true
  | .flowSequenceEnd => true
  | _ => false

mutual

/-- A node. Sequences without indentation of their own are read only where a mapping has its values. -/
def readNode (fuel : Nat) (block unindented : Bool) (reader : Reader) : Node × Option Reader :=
  match fuel with
  | 0 => stop (.forbidden 0)
  | fuel + 1 =>
    match reader.readProperties with
    | .error fault => stop fault
    | .ok (properties, placed, reader) =>
      match properties.anchor, properties.tag, placed.token with
      | none, none, .aliasTo name =>
        match reader.anchors.lookup name with
        | none => stop (.unknownAnchor placed.start)
        | some number => (.aliasTo placed.start number, some reader.drop)
      | _, tag, .scalar style text =>
        let (head, reader) := reader.head properties
        -- the lone exclamation mark says no more than the way the scalar is written
        let head := if tag = some "!" then { head with tag := none } else head
        (.scalar head style text, some reader.drop)
      | anchor, tag, token =>
        let (head, declared) := reader.head properties
        if unindented ∧ token = .blockEntry then
          let (items, rest) := readUnindented fuel declared
          (.sequence head items, rest)
        else match token with
          | .flowSequence =>
            let (items, rest) := readFlowItems fuel placed.start true declared.drop
            (.sequence head items, rest)
          | .flowMapping =>
            let (entries, rest) := readFlowMembers fuel placed.start true declared.drop
            (.mapping head entries, rest)
          | token =>
            if block ∧ token = .blockSequence then
              let (items, rest) := readBlockItems fuel placed.start declared.drop
              (.sequence head items, rest)
            else if block ∧ token = .blockMapping then
              let (entries, rest) := readBlockMembers fuel placed.start declared.drop
              (.mapping head entries, rest)
            else if anchor.isSome ∨ tag.isSome then (.scalar head .plain "", some declared)
            else stop (.complaint .nodeContent placed.start
              (some (if block then .blockNode else .flowNode, properties.start)))

/-- The items of a block sequence that started at a place. -/
def readBlockItems (fuel : Nat) (start : Position) (reader : Reader) : List Node × Option Reader :=
  match fuel with
  | 0 => stopItems (.forbidden 0)
  | fuel + 1 =>
    match reader.peek with
    | .error fault => stopItems fault
    | .ok (placed, reader) =>
      match placed.token with
      | .blockEnd => ([], some reader.drop)
      | .blockEntry =>
        match readBlockItem fuel false placed.stop reader.drop with
        | (item, none) => ([item], none)
        | (item, some reader) =>
          let (items, rest) := readBlockItems fuel start reader
          (item :: items, rest)
      | _ => stopItems (.complaint .blockItem placed.start (some (.blockCollection, start)))

/-- The items of a sequence as far indented as the mapping around it. -/
def readUnindented (fuel : Nat) (reader : Reader) : List Node × Option Reader :=
  match fuel with
  | 0 => stopItems (.forbidden 0)
  | fuel + 1 =>
    match reader.peek with
    | .error fault => stopItems fault
    | .ok (placed, reader) =>
      match placed.token with
      | .blockEntry =>
        match readBlockItem fuel true placed.stop reader.drop with
        | (item, none) => ([item], none)
        | (item, some reader) =>
          let (items, rest) := readUnindented fuel reader
          (item :: items, rest)
      | _ => ([], some reader)

/-- The item after a hyphen, which may be missing. -/
def readBlockItem (fuel : Nat) (unindented : Bool) (after : Position) (reader : Reader) : Node × Option Reader :=
  match fuel with
  | 0 => stop (.forbidden 0)
  | fuel + 1 =>
    match reader.peek with
    | .error fault => stop fault
    | .ok (placed, reader) =>
      let missing := match placed.token with
        | .blockEntry => true
        | .blockEnd => true
        | .key => unindented
        | .value => unindented
        | _ => false
      if missing then (.empty after, some reader) else readNode fuel true false reader

/-- The members of a block mapping that started at a place. -/
def readBlockMembers (fuel : Nat) (start : Position) (reader : Reader) : List (Node × Node) × Option Reader :=
  match fuel with
  | 0 => stopEntries (.forbidden 0)
  | fuel + 1 =>
    match reader.peek with
    | .error fault => stopEntries fault
    | .ok (placed, reader) =>
      match placed.token with
      | .blockEnd => ([], some reader.drop)
      | .key =>
        match readBlockPart fuel placed.stop reader.drop with
        | (key, none) => ([(key, .void)], none)
        | (key, some reader) =>
          match readBlockValue fuel reader with
          | (value, none) => ([(key, value)], none)
          | (value, some reader) =>
            let (entries, rest) := readBlockMembers fuel start reader
            ((key, value) :: entries, rest)
      | _ => stopEntries (.complaint .blockMember placed.start (some (.blockMapping, start)))

/-- The key after a question mark, or the value after a colon, which may be missing. -/
def readBlockPart (fuel : Nat) (after : Position) (reader : Reader) : Node × Option Reader :=
  match fuel with
  | 0 => stop (.forbidden 0)
  | fuel + 1 =>
    match reader.peek with
    | .error fault => stop fault
    | .ok (placed, reader) =>
      if isValueOrEnd placed.token then (.empty after, some reader) else readNode fuel true true reader

def readBlockValue (fuel : Nat) (reader : Reader) : Node × Option Reader :=
  match fuel with
  | 0 => stop (.forbidden 0)
  | fuel + 1 =>
    match reader.peek with
    | .error fault => stop fault
    | .ok (placed, reader) =>
      match placed.token with
      | .value => readBlockPart fuel placed.stop reader.drop
      | _ => (.empty placed.start, some reader)

/-- The items of a flow sequence that started at a place, with the comma before each but the first. -/
def readFlowItems (fuel : Nat) (start : Position) (first : Bool) (reader : Reader) : List Node × Option Reader :=
  match fuel with
  | 0 => stopItems (.forbidden 0)
  | fuel + 1 =>
    match reader.peek with
    | .error fault => stopItems fault
    | .ok (placed, reader) =>
      if placed.token = .flowSequenceEnd then ([], some reader.drop)
      else if !first && placed.token != .flowEntry then
        stopItems (.complaint .flowItem placed.start (some (.flowSequence, start)))
      else
        match (if first then .ok (placed, reader) else reader.drop.peek) with
        | .error fault => stopItems fault
        | .ok (placed, reader) =>
          match placed.token with
          | .flowSequenceEnd => ([], some reader.drop)
          | .key =>
            match readFlowPair fuel reader.drop with
            | (key, _, none) => ([.mapping { position := placed.start } [(key, .void)]], none)
            | (key, value, some rest) =>
              let pair : Node := .mapping { position := placed.start } [(key, value)]
              match rest with
              | none => ([pair], none)
              | some reader =>
                let (items, rest) := readFlowItems fuel start false reader
                (pair :: items, rest)
          | _ =>
            match readNode fuel false false reader with
            | (item, none) => ([item], none)
            | (item, some reader) =>
              let (items, rest) := readFlowItems fuel start false reader
              (item :: items, rest)

/-- A key with its value inside a flow sequence. A missing key takes the next token with it. The last part
is absent if the key could not be read. -/
def readFlowPair (fuel : Nat) (reader : Reader) : Node × Node × Option (Option Reader) :=
  match fuel with
  | 0 => (.broken (.forbidden 0), .void, none)
  | fuel + 1 =>
    match reader.peek with
    | .error fault => (.broken fault, .void, none)
    | .ok (placed, reader) =>
      let (key, rest) := if endsFlowPairKey placed.token then (Node.empty placed.stop, some reader.drop)
        else readNode fuel false false reader
      match rest with
      | none => (key, .void, none)
      | some reader =>
        let (value, rest) := readFlowValue fuel endsFlowPairKey reader
        (key, value, some rest)

/-- The value of a key in a flow collection, which may be missing with or without its colon. -/
def readFlowValue (fuel : Nat) (ends : Token → Bool) (reader : Reader) : Node × Option Reader :=
  match fuel with
  | 0 => stop (.forbidden 0)
  | fuel + 1 =>
    match reader.peek with
    | .error fault => stop fault
    | .ok (placed, reader) =>
      if placed.token = .value then
        match reader.drop.peek with
        | .error fault => stop fault
        | .ok (placed, reader) =>
          if placed.token ≠ .value ∧ ends placed.token then (.empty placed.start, some reader)
          else readNode fuel false false reader
      else (.empty placed.start, some reader)

/-- The members of a flow mapping that started at a place. -/
def readFlowMembers (fuel : Nat) (start : Position) (first : Bool) (reader : Reader) :
    List (Node × Node) × Option Reader :=
  match fuel with
  | 0 => stopEntries (.forbidden 0)
  | fuel + 1 =>
    match reader.peek with
    | .error fault => stopEntries fault
    | .ok (placed, reader) =>
      if placed.token = .flowMappingEnd then ([], some reader.drop)
      else if !first && placed.token != .flowEntry then
        stopEntries (.complaint .flowMember placed.start (some (.flowMapping, start)))
      else
        match (if first then .ok (placed, reader) else reader.drop.peek) with
        | .error fault => stopEntries fault
        | .ok (placed, reader) =>
          if placed.token = .flowMappingEnd then ([], some reader.drop)
          else
            match readFlowMember fuel (placed.token = .key) reader with
            | (key, value, none) => ([(key, value)], none)
            | (key, value, some reader) =>
              let (entries, rest) := readFlowMembers fuel start false reader
              ((key, value) :: entries, rest)

/-- A member of a flow mapping. Without a colon it has an empty value. -/
def readFlowMember (fuel : Nat) (keyed : Bool) (reader : Reader) : Node × Node × Option Reader :=
  match fuel with
  | 0 => (.broken (.forbidden 0), .void, none)
  | fuel + 1 =>
    if keyed then
      match reader.drop.peek with
      | .error fault => (.broken fault, .void, none)
      | .ok (placed, reader) =>
        let (key, rest) := if endsFlowMember placed.token then (Node.empty placed.start, some reader)
          else readNode fuel false false reader
        match rest with
        | none => (key, .void, none)
        | some reader =>
          let (value, rest) := readFlowValue fuel endsFlowMember reader
          (key, value, rest)
    else
      match readNode fuel false false reader with
      | (key, none) => (key, .void, none)
      | (key, some reader) =>
        match reader.peek with
        | .error fault => (key, .broken fault, none)
        | .ok (placed, reader) => (key, .empty placed.start, some reader)

end

end Reader

/-- What a text holds: its first document, the fault that comes right after it, and whether anything
but its end follows. -/
structure Contents where
  root : Node
  fault : Option Malformed := none
  more : Bool := false

namespace Contents

/-- The directives before a document. -/
def readDirectives : Nat → Bool → List (String × String) → Reader → Except Malformed (Placed × Reader)
  | 0, _, _, reader => reader.peek
  | fuel + 1, versioned, handles, reader => do
    let (placed, reader) ← reader.peek
    match placed.token with
    | .version major minor =>
      if versioned then throw (.complaint .repeatedVersion placed.start none)
      if major ≠ 1 ∨ (minor ≠ 1 ∧ minor ≠ 2) then throw (.complaint .version placed.start none)
      readDirectives fuel true handles reader.drop
    | .handle name target =>
      if (handles.lookup name).isSome then throw (.complaint .repeatedHandle placed.start none)
      readDirectives fuel versioned (handles ++ [(name, target)]) reader.drop
    | _ => return (placed, { reader with handles := handles ++ Reader.standardHandles })

def isDirective : Token → Bool
  | .version _ _ => true
  | .handle _ _ => true
  | _ => false

def endsDocument : Token → Bool
  | .documentStart => true
  | .documentEnd => true
  | .streamEnd => true
  | token => isDirective token

/-- The start of the first document, which may go unmarked: whether it is there at all. -/
def readStart (fuel : Nat) (reader : Reader) : Except Malformed (Option (Bool × Reader)) := do
  let (placed, reader) ← reader.peek
  if placed.token = .streamEnd then return none
  if placed.token ≠ .documentStart ∧ !isDirective placed.token then
    return some (false, { reader with handles := Reader.standardHandles })
  let (placed, reader) ← readDirectives fuel false [] reader
  if placed.token ≠ .documentStart then throw (.complaint .documentStart placed.start none)
  return some (true, reader.drop)

/-- Whether anything but marks of the document's end follows; what cannot be read counts. -/
def goesOn : Nat → Reader → Bool
  | 0, _ => false
  | fuel + 1, reader =>
    match reader.peek with
    | .error _ => true
    | .ok (placed, reader) =>
      match placed.token with
      | .streamEnd => false
      | .documentEnd => goesOn fuel reader.drop
      | _ => true

def readEnd (fuel : Nat) (root : Node) (reader : Reader) : Contents :=
  match reader.peek with
  | .error fault => { root, fault := some fault }
  | .ok (placed, reader) =>
    { root, more := goesOn fuel (if placed.token = .documentEnd then reader.drop else reader) }

def readContent (fuel : Nat) (marked : Bool) (reader : Reader) : Contents :=
  match reader.peek with
  | .error fault => { root := .broken fault }
  | .ok (placed, reader) =>
    if marked && endsDocument placed.token then readEnd fuel (.empty placed.start) reader
    else match reader.readNode fuel true false with
      | (root, none) => { root }
      | (root, some reader) => readEnd fuel root reader

/-- The bytes before the first character that may not occur. -/
def forbidden? (text : List Char) : Option Nat :=
  match text.dropWhile isAllowed with
  | [] => none
  | _ :: _ => some (Text.byteCount (text.takeWhile isAllowed))

/-- A text with a forbidden character is not read at all. -/
def ofText (text : List Char) : Contents :=
  match forbidden? text with
  | some offset => { root := .broken (.forbidden offset) }
  | none =>
    let fuel := 8 * text.length + 64
    match readStart fuel { lexer := Lexer.ofText text } with
    | .error fault => { root := .broken fault }
    | .ok none => { root := .void }
    | .ok (some (marked, reader)) => readContent fuel marked reader

end Contents

end ApiStyle.Yaml
