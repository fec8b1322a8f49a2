/-! Places in a text and the character classes of YAML. -/

namespace ApiStyle.Yaml

/-- Characters, lines and characters of the last line before a place. -/
structure Position where
  index : Nat := 0
  line : Nat := 0
  column : Nat := 0
deriving DecidableEq, Repr, Inhabited

namespace Position

def right (position : Position) (count : Nat) : Position :=
  { position with index := position.index + count, column := position.column + count }

/-- The start of the next line, after a break of so many characters. -/
def down (position : Position) (count : Nat) : Position :=
  ⟨position.index + count, position.line + 1, 0⟩

end Position

def isBlank (character : Char) : Bool := character == ' ' || character == '\t'

def isBreak (character : Char) : Bool :=
  character == '\n' || character == '\r' || character == '\u0085'
    || character == '\u2028' || character == '\u2029'

/-- Letters of anchors, tag handles and directive names. -/
def isWordChar (character : Char) : Bool :=
  ('a' ≤ character && character ≤ 'z') || ('A' ≤ character && character ≤ 'Z')
    || ('0' ≤ character && character ≤ '9') || character == '_' || character == '-'

def isDigit (character : Char) : Bool := '0' ≤ character && character ≤ '9'

def hexValue? (character : Char) : Option Nat :=
  if '0' ≤ character ∧ character ≤ '9' then some (character.toNat - 48)
  else if 'a' ≤ character ∧ character ≤ 'f' then some (character.toNat - 87)
  else if 'A' ≤ character ∧ character ≤ 'F' then some (character.toNat - 55)
  else none

/-- Characters that a text may hold at all. -/
def isAllowed (character : Char) : Bool :=
  let code := character.toNat
  code == 0x09 || code == 0x0A || code == 0x0D || (0x20 ≤ code && code ≤ 0x7E) || code == 0x85
    || (0xA0 ≤ code && code ≤ 0xD7FF) || (0xE000 ≤ code && code ≤ 0xFFFD) || 0x10000 ≤ code

/-- The rest of a text and the place where it starts. -/
structure Cursor where
  rest : List Char
  position : Position := {}
  /-- a bound on the steps of a loop over the rest that moves on in every step -/
  fuel : Nat
deriving DecidableEq, Repr, Inhabited

namespace Cursor

def ofText (text : List Char) : Cursor := { rest := text, fuel := text.length + 1 }

def head? (cursor : Cursor) : Option Char := cursor.rest.head?

def ahead? (cursor : Cursor) (offset : Nat) : Option Char := cursor.rest[offset]?

def column (cursor : Cursor) : Nat := cursor.position.column

def atEnd (cursor : Cursor) : Bool := cursor.rest.isEmpty

/-- Whether the next character satisfies a test; false at the end. -/
def sees (cursor : Cursor) (test : Char → Bool) : Bool := cursor.head?.any test

def starts (cursor : Cursor) (character : Char) : Bool := cursor.head? == some character

/-- Whether a blank, a break or the end lies so many characters ahead. -/
def spaceAt (cursor : Cursor) (offset : Nat) : Bool :=
  (cursor.ahead? offset).all fun character => isBlank character || isBreak character

/-- Whether a break or the end comes next. -/
def atLineEnd (cursor : Cursor) : Bool := cursor.head?.all isBreak

/-- Moves over characters that are not breaks. -/
def advance (cursor : Cursor) (count : Nat) : Cursor :=
  { cursor with rest := cursor.rest.drop count, position := cursor.position.right count }

/-- Moves over one line break, if there is one. Also the text it counts as: line and paragraph
separators stand for themselves, every other break for a line feed. -/
def takeBreak (cursor : Cursor) : List Char × Cursor :=
  match cursor.rest with
  | '\r' :: '\n' :: rest => (['\n'], { cursor with rest, position := cursor.position.down 2 })
  | character :: rest =>
    if isBreak character then
      ([if character == '\u2028' || character == '\u2029' then character else '\n'],
        { cursor with rest, position := cursor.position.down 1 })
    else ([], cursor)
  | [] => ([], cursor)

/-- The characters up to the first that fails a test, which must fail on breaks. -/
def span (cursor : Cursor) (test : Char → Bool) : List Char × Cursor :=
  let taken := cursor.rest.takeWhile test
  (taken, cursor.advance taken.length)

def skip (cursor : Cursor) (test : Char → Bool) : Cursor := (cursor.span test).2

/-- Moves over a comment, if one starts here. -/
def skipComment (cursor : Cursor) : Cursor :=
  if cursor.starts '#' then cursor.skip (!isBreak ·) else cursor

/-- Whether a line starts here that marks the start or the end of a document. -/
def atDocumentMark (cursor : Cursor) : Bool :=
  cursor.column == 0 && (cursor.rest.take 3 == ['-', '-', '-'] || cursor.rest.take 3 == ['.', '.', '.'])
    && cursor.spaceAt 3

end Cursor

end ApiStyle.Yaml
