import ApiStyle.Yaml.Malformed

/-! The three ways of writing scalars: plain, quoted and as a block. Lines of plain and quoted scalars are
folded: a single break counts as a blank, and of more breaks all but the first are kept. -/

namespace ApiStyle.Yaml

/-- The blanks and breaks between two words of a scalar, each read so far. -/
structure Gap where
  blanks : List Char := []
  /-- the first break, which may be absent even after the line has ended -/
  first : List Char := []
  others : List Char := []
  broken : Bool := false
deriving DecidableEq, Repr

namespace Gap

/-- What a gap stands for. -/
def text (gap : Gap) : List Char :=
  if gap.broken then
    if gap.first = ['\n'] then if gap.others.isEmpty then [' '] else gap.others
    else gap.first ++ gap.others
  else gap.blanks

def addBlank (gap : Gap) (blank : Char) : Gap :=
  if gap.broken then gap else { gap with blanks := gap.blanks ++ [blank] }

def addBreak (gap : Gap) (found : List Char) : Gap :=
  if gap.broken then { gap with others := gap.others ++ found }
  else { gap with blanks := [], first := found, broken := true }

end Gap

def isFlowIndicator (character : Char) : Bool :=
  character == ',' || character == '[' || character == ']' || character == '\x7b' || character == '\x7d'

/-- Whether a plain scalar ends before the next character. -/
def endsPlain (inFlow : Bool) (cursor : Cursor) : Bool :=
  cursor.spaceAt 0 || (cursor.starts ':' && cursor.spaceAt 1) || (inFlow && cursor.sees isFlowIndicator)

def plainWord (inFlow : Bool) (start : Position) :
    Nat → Cursor → List Char → Except Malformed (List Char × Cursor)
  | 0, cursor, word => .ok (word.reverse, cursor)
  | fuel + 1, cursor, word =>
    match cursor.head? with
    | none => .ok (word.reverse, cursor)
    | some character =>
      if inFlow ∧ character = ':' ∧ (cursor.ahead? 1).any (fun next => isFlowIndicator next || next == '?') then
        complain .plainColon cursor.position .plainScalar start
      else if endsPlain inFlow cursor then .ok (word.reverse, cursor)
      else plainWord inFlow start fuel (cursor.advance 1) (character :: word)

/-- Blanks and breaks after a word; on a new line no tab may stand in the indentation. -/
def plainGap (indent : Int) (start : Position) : Nat → Cursor → Gap → Except Malformed (Gap × Cursor)
  | 0, cursor, gap => .ok (gap, cursor)
  | fuel + 1, cursor, gap =>
    match cursor.head? with
    | none => .ok (gap, cursor)
    | some character =>
      if isBlank character then
        if gap.broken ∧ (cursor.column : Int) < indent ∧ character = '\t' then
          complain .plainTab cursor.position .plainScalar start
        else plainGap indent start fuel (cursor.advance 1) (gap.addBlank character)
      else if isBreak character then
        let (found, cursor) := cursor.takeBreak
        plainGap indent start fuel cursor (gap.addBreak found)
      else .ok (gap, cursor)

/-- A plain scalar that was read: its text, whether it ended on a new line, and what follows. -/
structure Plain where
  text : List Char
  newLine : Bool
  after : Cursor

def plainFrom (inFlow : Bool) (indent : Int) (start : Position) :
    Nat → Cursor → List Char → Gap → Except Malformed Plain
  | 0, cursor, text, gap => .ok ⟨text, gap.broken, cursor⟩
  | fuel + 1, cursor, text, gap => do
    if cursor.atDocumentMark || cursor.starts '#' then return ⟨text, gap.broken, cursor⟩
    let (word, cursor) ← plainWord inFlow start cursor.fuel cursor []
    if word.isEmpty then return ⟨text, gap.broken, cursor⟩
    let text := text ++ gap.text ++ word
    if cursor.atEnd || !cursor.spaceAt 0 then return ⟨text, false, cursor⟩
    let (gap, cursor) ← plainGap indent start cursor.fuel cursor {}
    if !inFlow && (cursor.column : Int) < indent then return ⟨text, gap.broken, cursor⟩
    plainFrom inFlow indent start fuel cursor text gap

/-- A plain scalar in a block of the given indentation. -/
def readPlain (inFlow : Bool) (indent : Int) (cursor : Cursor) : Except Malformed Plain :=
  plainFrom inFlow (indent + 1) cursor.position cursor.fuel cursor [] {}

def simpleEscape? : Char → Option Char
  | '0' => some '\x00'
  | 'a' => some '\x07'
  | 'b' => some '\x08'
  | 't' => some '\t'
  | '\t' => some '\t'
  | 'n' => some '\n'
  | 'v' => some '\x0b'
  | 'f' => some '\x0c'
  | 'r' => some '\r'
  | 'e' => some '\x1b'
  | ' ' => some ' '
  | '"' => some '"'
  | '/' => some '/'
  | '\\' => some '\\'
  | 'N' => some '\u0085'
  | '_' => some '\u00a0'
  | 'L' => some '\u2028'
  | 'P' => some '\u2029'
  | _ => none

/-- How many hexadecimal digits follow an escape. -/
def escapeWidth? : Char → Option Nat
  | 'x' => some 2
  | 'u' => some 4
  | 'U' => some 8
  | _ => none

def hexNumber? (digits : List Char) : Option Nat :=
  digits.foldlM (fun value digit => (hexValue? digit).map (value * 16 + ·)) 0

/-- The escape at a backslash. -/
def readEscape (start : Position) (cursor : Cursor) : Except Malformed (Char × Cursor) :=
  let letter := (cursor.ahead? 1).getD '\x00'
  match simpleEscape? letter, escapeWidth? letter with
  | some character, _ => .ok (character, cursor.advance 2)
  | none, none => complain .unknownEscape cursor.position .quotedText start
  | none, some width =>
    let cursor := cursor.advance 2
    let digits := cursor.rest.take width
    if digits.length < width then complain .hexNumber cursor.position .quotedText start
    else match hexNumber? digits with
      | none => complain .hexNumber cursor.position .quotedText start
      | some code =>
        if code.isValidChar then .ok (Char.ofNat code, cursor.advance width)
        else complain .badCode cursor.position .quotedText start

/-- Characters up to a blank, a break, the closing quotation mark or an escaped break; also whether it
was an escaped break. -/
def quotedWord (single : Bool) (start : Position) :
    Nat → Cursor → List Char → Except Malformed (List Char × Bool × Cursor)
  | 0, cursor, word => .ok (word.reverse, false, cursor)
  | fuel + 1, cursor, word =>
    match cursor.head? with
    | none => .ok (word.reverse, false, cursor)
    | some character =>
      if isBlank character || isBreak character then .ok (word.reverse, false, cursor)
      else if single then
        if character = '\'' then
          if cursor.ahead? 1 = some '\'' then quotedWord single start fuel (cursor.advance 2) ('\'' :: word)
          else .ok (word.reverse, false, cursor)
        else quotedWord single start fuel (cursor.advance 1) (character :: word)
      else if character = '"' then .ok (word.reverse, false, cursor)
      else if character = '\\' then
        if (cursor.ahead? 1).any isBreak then .ok (word.reverse, true, (cursor.advance 1).takeBreak.2)
        else do
          let (decoded, cursor) ← readEscape start cursor
          quotedWord single start fuel cursor (decoded :: word)
      else quotedWord single start fuel (cursor.advance 1) (character :: word)

def quotedGap : Nat → Cursor → Gap → Gap × Cursor
  | 0, cursor, gap => (gap, cursor)
  | fuel + 1, cursor, gap =>
    match cursor.head? with
    | none => (gap, cursor)
    | some character =>
      if isBlank character then quotedGap fuel (cursor.advance 1) (gap.addBlank character)
      else if isBreak character then
        let (found, cursor) := cursor.takeBreak
        quotedGap fuel cursor (gap.addBreak found)
      else (gap, cursor)

def quotedFrom (single : Bool) (start : Position) : Nat → Cursor → List Char → Except Malformed (List Char × Cursor)
  | 0, cursor, _ => complain .streamEnd cursor.position .quotedScalar start
  | fuel + 1, cursor, text => do
    if cursor.atDocumentMark then complain .documentMark cursor.position .quotedScalar start
    if cursor.atEnd then complain .streamEnd cursor.position .quotedScalar start
    let (word, escaped, cursor) ← quotedWord single start cursor.fuel cursor []
    let text := text ++ word
    if cursor.starts (if single then '\'' else '"') then return (text, cursor.advance 1)
    let (gap, cursor) := quotedGap cursor.fuel cursor { broken := escaped }
    quotedFrom single start fuel cursor (text ++ gap.text)

/-- A quoted scalar from its opening quotation mark on. -/
def readQuoted (single : Bool) (cursor : Cursor) : Except Malformed (List Char × Cursor) :=
  quotedFrom single cursor.position cursor.fuel (cursor.advance 1) []

/-- What happens to the breaks at the end of a block scalar. -/
inductive Chomping where
  | clip | strip | keep
deriving DecidableEq, Repr

def readChomping (cursor : Cursor) : Chomping × Cursor :=
  match cursor.head? with
  | some '+' => (.keep, cursor.advance 1)
  | some '-' => (.strip, cursor.advance 1)
  | _ => (.clip, cursor)

/-- An indentation indicator, if there is one. -/
def readIncrement (start : Position) (cursor : Cursor) : Except Malformed (Option Nat × Cursor) :=
  match cursor.head? with
  | some '0' => complain .zeroIndent cursor.position .blockScalar start
  | some character =>
    if isDigit character then .ok (some (character.toNat - 48), cursor.advance 1) else .ok (none, cursor)
  | none => .ok (none, cursor)

/-- The two indicators, in either order. -/
def readIndicators (start : Position) (cursor : Cursor) : Except Malformed (Chomping × Option Nat × Cursor) := do
  if cursor.starts '+' || cursor.starts '-' then
    let (chomping, cursor) := readChomping cursor
    let (increment, cursor) ← readIncrement start cursor
    return (chomping, increment, cursor)
  else
    let (increment, cursor) ← readIncrement start cursor
    if increment.isSome then
      let (chomping, cursor) := readChomping cursor
      return (chomping, increment, cursor)
    else return (.clip, none, cursor)

/-- Empty lines: their breaks, the widest indentation met, and the text from the first other line on.
Without a known indentation every blank at the start of a line is taken for indentation. -/
def blockBreaks (indent : Option Nat) (start : Position) :
    Nat → Cursor → List Char → Nat → Except Malformed (List Char × Nat × Cursor)
  | 0, cursor, breaks, widest => .ok (breaks, widest, cursor)
  | fuel + 1, cursor, breaks, widest =>
    let blanks := (cursor.rest.takeWhile (· == ' ')).length
    let cursor := cursor.advance ((indent.map fun indent => min blanks (indent - cursor.column)).getD blanks)
    let widest := max widest cursor.column
    if (indent.all (cursor.column < ·)) ∧ cursor.starts '\t' then
      complain .blockTab cursor.position .blockScalar start
    else if cursor.sees isBreak then
      let (found, cursor) := cursor.takeBreak
      blockBreaks indent start fuel cursor (breaks ++ found) widest
    else .ok (breaks, widest, cursor)

/-- The lines of a block scalar. A break is folded unless a line beside it starts with a blank. -/
def blockLines (literal : Bool) (indent : Nat) (start : Position) :
    Nat → Cursor → List Char → List Char → List Char → Bool →
      Except Malformed (List Char × List Char × List Char × Cursor)
  | 0, cursor, text, pending, breaks, _ => .ok (text, pending, breaks, cursor)
  | fuel + 1, cursor, text, pending, breaks, blankBefore =>
    if cursor.column = indent ∧ !cursor.atEnd then do
      let blankNow := cursor.sees isBlank
      let folded := !literal && pending == ['\n'] && !blankBefore && !blankNow
      let joint := if folded then if breaks.isEmpty then [' '] else breaks else pending ++ breaks
      let (line, cursor) := cursor.span (!isBreak ·)
      let (pending, cursor) := cursor.takeBreak
      let (breaks, _, cursor) ← blockBreaks (some indent) start cursor.fuel cursor [] 0
      blockLines literal indent start fuel cursor (text ++ joint ++ line) pending breaks blankNow
    else .ok (text, pending, breaks, cursor)

/-- A block scalar from its indicator on, inside a block of the given indentation. -/
def readBlock (literal : Bool) (outer : Int) (cursor : Cursor) : Except Malformed (List Char × Cursor) := do
  let start := cursor.position
  let (chomping, increment, cursor) ← readIndicators start (cursor.advance 1)
  let cursor := (cursor.skip isBlank).skipComment
  if !cursor.atLineEnd then complain .blockHeaderEnd cursor.position .blockScalar start
  let (_, cursor) := cursor.takeBreak
  let known := increment.map fun increment => outer.toNat + increment
  let (breaks, widest, cursor) ← blockBreaks known start cursor.fuel cursor [] 0
  let indent := known.getD (max widest (max (outer + 1).toNat 1))
  let (text, pending, breaks, cursor) ← blockLines literal indent start cursor.fuel cursor [] [] breaks false
  let tail := match chomping with
    | .strip => []
    | .clip => pending
    | .keep => pending ++ breaks
  return (text ++ tail, cursor)

end ApiStyle.Yaml
