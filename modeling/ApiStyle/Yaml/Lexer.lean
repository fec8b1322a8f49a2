import ApiStyle.Yaml.Scalar
import ApiStyle.Yaml.Token

/-! From a text to its tokens, one at a time. Block structure is told by indentation: deeper opens a
collection and shallower closes some. Whether a scalar is a key shows only at a later colon, so a token that
could start a key is kept as pending, and the tokens from it on are held back until that is settled. -/

namespace ApiStyle.Yaml

/-- A token that is a key if a colon follows in time. -/
structure Pending where
  /-- where it stands among all tokens -/
  number : Nat
  position : Position
  /-- its line starts at the indentation of the block, so it can be nothing else -/
  required : Bool
deriving DecidableEq, Repr

structure Lexer where
  cursor : Cursor
  /-- tokens that were read and not yet taken -/
  queue : List Placed := []
  taken : Nat := 0
  /-- the pending key of the block context and of each open flow collection, innermost first -/
  pending : List (Option Pending) := [none]
  indent : Int := -1
  indents : List Int := []
  keyAllowed : Bool := true
deriving Repr

namespace Lexer

def ofText (text : List Char) : Lexer := { cursor := .ofText text }

def position (lexer : Lexer) : Position := lexer.cursor.position

def inFlow (lexer : Lexer) : Bool := 1 < lexer.pending.length

def emit (lexer : Lexer) (token : Token) (start stop : Position) : Lexer :=
  { lexer with queue := lexer.queue ++ [⟨token, start, stop⟩] }

/-- Reads one token of so many characters. -/
def emitHere (lexer : Lexer) (token : Token) (length : Nat) : Lexer :=
  let cursor := lexer.cursor.advance length
  { lexer.emit token lexer.position cursor.position with cursor }

/-- Puts a token before the one with the given number. -/
def insert (lexer : Lexer) (number : Nat) (token : Token) (place : Position) : Lexer :=
  { lexer with queue := lexer.queue.insertIdx (number - lexer.taken) ⟨token, place, place⟩ }

/-- A key ends on its line and has at most 1024 characters. -/
def isStale (cursor : Cursor) (key : Pending) : Bool :=
  key.position.line < cursor.position.line || key.position.index + 1024 < cursor.position.index

def dropStale (cursor : Cursor) : List (Option Pending) → Except Malformed (List (Option Pending))
  | [] => .ok []
  | none :: rest => return none :: (← dropStale cursor rest)
  | some key :: rest => do
    -- the outermost key is looked at first
    let rest ← dropStale cursor rest
    if isStale cursor key then
      if key.required then complain .keyWithoutValue cursor.position .simpleKey key.position
      return none :: rest
    return some key :: rest

def expireKeys (lexer : Lexer) : Except Malformed Lexer := do
  return { lexer with pending := ← dropStale lexer.cursor lexer.pending }

/-- Gives up the innermost pending key. -/
def removeKey (lexer : Lexer) : Except Malformed Lexer :=
  match lexer.pending with
  | some key :: rest =>
    if key.required then complain .keyWithoutValue lexer.position .simpleKey key.position
    else .ok { lexer with pending := none :: rest }
  | _ => .ok lexer

/-- The next token may be a key. -/
def saveKey (lexer : Lexer) : Except Malformed Lexer := do
  if !lexer.keyAllowed then return lexer
  let required := !lexer.inFlow && decide (lexer.indent = lexer.cursor.column)
  let key : Pending := ⟨lexer.taken + lexer.queue.length, lexer.position, required⟩
  let lexer ← lexer.removeKey
  return { lexer with pending := some key :: lexer.pending.drop 1 }

/-- Opens a block collection if the column is deeper than the current one; its token is put at the end
or before the token with a given number. -/
def openBlock (lexer : Lexer) (token : Token) (column : Nat) (place : Position) (number : Option Nat) : Lexer :=
  if lexer.inFlow || decide ((column : Int) ≤ lexer.indent) then lexer
  else
    let lexer := { lexer with indents := lexer.indent :: lexer.indents, indent := column }
    match number with
    | none => lexer.emit token place place
    | some number => lexer.insert number token place

/-- Closes the block collections deeper than a column. -/
def closeBlocks (column : Int) : List Int → Lexer → Lexer
  | [], lexer => lexer
  | outer :: indents, lexer =>
    if column < lexer.indent then
      closeBlocks column indents
        { lexer.emit .blockEnd lexer.position lexer.position with indent := outer, indents }
    else lexer

def closeTo (lexer : Lexer) (column : Int) : Lexer :=
  if lexer.inFlow then lexer else closeBlocks column lexer.indents lexer

/-- Blanks, comments and line breaks between tokens. A tab may stand in flow collections and after
something on its line; a new line allows a key. -/
def skipSpace : Nat → Lexer → Lexer
  | 0, lexer => lexer
  | fuel + 1, lexer =>
    let cursor := lexer.cursor
    let cursor := if cursor.column = 0 ∧ cursor.starts '\ufeff' then cursor.advance 1 else cursor
    let tabs := lexer.inFlow || !lexer.keyAllowed
    let cursor := (cursor.skip fun character => character == ' ' || (tabs && character == '\t')).skipComment
    if cursor.sees isBreak then
      skipSpace fuel
        { lexer with cursor := cursor.takeBreak.2, keyAllowed := lexer.keyAllowed || !lexer.inFlow }
    else { lexer with cursor }

def readStreamEnd (lexer : Lexer) : Except Malformed Lexer := do
  let position := lexer.position
  let position := if position.column = 0 then position else { position with line := position.line + 1, column := 0 }
  let lexer := { lexer with cursor := { lexer.cursor with rest := [], position } }.closeTo (-1)
  let lexer ← lexer.removeKey
  return { lexer with keyAllowed := false }.emit .streamEnd position position

def readDirectiveToken (lexer : Lexer) : Except Malformed Lexer := do
  let lexer ← (lexer.closeTo (-1)).removeKey
  let (placed, cursor) ← readDirective lexer.cursor
  return { lexer with cursor, keyAllowed := false, queue := lexer.queue ++ [placed] }

def readDocumentMark (lexer : Lexer) (token : Token) : Except Malformed Lexer := do
  let lexer ← (lexer.closeTo (-1)).removeKey
  return { lexer with keyAllowed := false }.emitHere token 3

def openFlow (lexer : Lexer) (token : Token) : Except Malformed Lexer := do
  let lexer ← lexer.saveKey
  return { lexer with pending := none :: lexer.pending, keyAllowed := true }.emitHere token 1

def closeFlow (lexer : Lexer) (token : Token) : Except Malformed Lexer := do
  let lexer ← lexer.removeKey
  let pending := if lexer.inFlow then lexer.pending.drop 1 else lexer.pending
  return { lexer with pending, keyAllowed := false }.emitHere token 1

def readFlowEntry (lexer : Lexer) : Except Malformed Lexer := do
  let lexer ← lexer.removeKey
  return { lexer with keyAllowed := true }.emitHere .flowEntry 1

/-- A complaint that needs no context. -/
def refuse (lexer : Lexer) (problem : Problem) : Except Malformed α :=
  .error (.complaint problem lexer.position none)

def readBlockEntry (lexer : Lexer) : Except Malformed Lexer := do
  if !lexer.inFlow && !lexer.keyAllowed then lexer.refuse .blockEntry
  let lexer ← (lexer.openBlock .blockSequence lexer.cursor.column lexer.position none).removeKey
  return { lexer with keyAllowed := true }.emitHere .blockEntry 1

def readKey (lexer : Lexer) : Except Malformed Lexer := do
  if !lexer.inFlow && !lexer.keyAllowed then lexer.refuse .blockKey
  let lexer ← (lexer.openBlock .blockMapping lexer.cursor.column lexer.position none).removeKey
  return { lexer with keyAllowed := !lexer.inFlow }.emitHere .key 1

/-- A colon makes a key of the pending token, if there is one. -/
def readValue (lexer : Lexer) : Except Malformed Lexer :=
  match lexer.pending with
  | some key :: rest =>
    let lexer := lexer.insert key.number .key key.position
    let lexer := lexer.openBlock .blockMapping key.position.column key.position (some key.number)
    .ok ({ lexer with pending := none :: rest, keyAllowed := false }.emitHere .value 1)
  | _ =>
    if !lexer.inFlow && !lexer.keyAllowed then lexer.refuse .blockValue
    else
      let lexer := lexer.openBlock .blockMapping lexer.cursor.column lexer.position none
      .ok ({ lexer with keyAllowed := !lexer.inFlow }.emitHere .value 1)

def readAnchor (lexer : Lexer) (construct : Construct) (token : String → Token) : Except Malformed Lexer := do
  let lexer ← lexer.saveKey
  let (name, cursor) ← readAnchorName construct lexer.cursor
  return { lexer.emit (token name) lexer.position cursor.position with cursor, keyAllowed := false }

def readTagToken (lexer : Lexer) : Except Malformed Lexer := do
  let lexer ← lexer.saveKey
  let (handle, suffix, cursor) ← readTag lexer.inFlow lexer.cursor
  return { lexer.emit (.tag handle suffix) lexer.position cursor.position with cursor, keyAllowed := false }

def readBlockScalar (lexer : Lexer) (literal : Bool) : Except Malformed Lexer := do
  let lexer ← lexer.removeKey
  let (text, cursor) ← readBlock literal lexer.indent lexer.cursor
  return { lexer.emit (.scalar .quoted (String.ofList text)) lexer.position cursor.position with
    cursor, keyAllowed := true }

def readQuotedScalar (lexer : Lexer) (single : Bool) : Except Malformed Lexer := do
  let lexer ← lexer.saveKey
  let (text, cursor) ← readQuoted single lexer.cursor
  return { lexer.emit (.scalar .quoted (String.ofList text)) lexer.position cursor.position with
    cursor, keyAllowed := false }

def readPlainScalar (lexer : Lexer) : Except Malformed Lexer := do
  let lexer ← lexer.saveKey
  let plain ← readPlain lexer.inFlow lexer.indent lexer.cursor
  return { lexer.emit (.scalar .plain (String.ofList plain.text)) lexer.position plain.after.position with
    cursor := plain.after, keyAllowed := plain.newLine }

/-- Characters that start no plain scalar, unless what follows them allows it. -/
def isIndicator (character : Char) : Bool :=
  "-?:,[]\x7b\x7d#&*!|>'\"%@`".toList.contains character

/-- Whether a plain scalar starts at a character that no token of its own starts with. -/
def startsPlain (lexer : Lexer) (character : Char) : Bool :=
  !(isBlank character || isBreak character || isIndicator character)
    || (character == '-' && !(lexer.cursor.ahead? 1).any isBlank)
    || (!lexer.inFlow && (character == '?' || character == ':') && !lexer.cursor.spaceAt 1)

/-- Reads the next token, with the tokens that it implies. -/
def readToken (lexer : Lexer) : Except Malformed Lexer := do
  let lexer ← (skipSpace lexer.cursor.fuel lexer).expireKeys
  let lexer := lexer.closeTo lexer.cursor.column
  let cursor := lexer.cursor
  match cursor.head? with
  | none => lexer.readStreamEnd
  | some character =>
    if cursor.column = 0 ∧ character = '%' then lexer.readDirectiveToken
    else if cursor.atDocumentMark then
      lexer.readDocumentMark (if character = '-' then .documentStart else .documentEnd)
    else
      let indicates := lexer.inFlow || cursor.spaceAt 1
      match character with
      | '[' => lexer.openFlow .flowSequence
      | '\x7b' => lexer.openFlow .flowMapping
      | ']' => lexer.closeFlow .flowSequenceEnd
      | '\x7d' => lexer.closeFlow .flowMappingEnd
      | ',' => lexer.readFlowEntry
      | '*' => lexer.readAnchor .aliasTo .aliasTo
      | '&' => lexer.readAnchor .anchor .anchor
      | '!' => lexer.readTagToken
      | '\'' => lexer.readQuotedScalar true
      | '"' => lexer.readQuotedScalar false
      | _ =>
        if character = '-' ∧ cursor.spaceAt 1 then lexer.readBlockEntry
        else if character = '?' ∧ indicates then lexer.readKey
        else if character = ':' ∧ indicates then lexer.readValue
        else if character = '|' ∧ !lexer.inFlow then lexer.readBlockScalar true
        else if character = '>' ∧ !lexer.inFlow then lexer.readBlockScalar false
        else if lexer.startsPlain character then lexer.readPlainScalar
        else complain .badStart cursor.position .nextToken cursor.position

/-- Whether the first token in the queue could still be preceded by another one. -/
def undecided (lexer : Lexer) : Bool :=
  lexer.queue.isEmpty || lexer.pending.any (·.any (·.number == lexer.taken))

/-- Reads until the first token in the queue is settled. -/
def settle : Nat → Lexer → Except Malformed Lexer
  | 0, lexer => .ok lexer
  | fuel + 1, lexer => do
    let lexer ← if lexer.queue.isEmpty then pure lexer else lexer.expireKeys
    if lexer.undecided then settle fuel (← lexer.readToken) else return lexer

/-- The next token. After the end of the stream there is always another end. -/
def peek (lexer : Lexer) : Except Malformed (Placed × Lexer) := do
  let lexer ← settle (lexer.cursor.fuel + 1) lexer
  match lexer.queue with
  | placed :: _ => return (placed, lexer)
  | [] => return (⟨.streamEnd, lexer.position, lexer.position⟩, lexer)

/-- Takes the token that was looked at. -/
def drop (lexer : Lexer) : Lexer :=
  { lexer with queue := lexer.queue.drop 1, taken := lexer.taken + 1 }

end Lexer

end ApiStyle.Yaml
