import ApiStyle.Toml.Scalar

/-! Reading TOML text into a tree. A text with any fault has no tree at all. -/

namespace ApiStyle.Toml

def fault (text : List Char) : Except Malformed α := .error ⟨text.length⟩

def isBlank (character : Char) : Bool := character == ' ' || character == '\t'

def skipBlank (text : List Char) : List Char := text.dropWhile isBlank

/-- Characters of comments and strings: no control characters but the tab. -/
def isPrintable (character : Char) : Bool :=
  character == '\t' || (0x20 ≤ character.toNat && character != '\x7f')

def skipComment : List Char → List Char
  | '#' :: rest => rest.dropWhile isPrintable
  | text => text

/-- The text after a line break. -/
def newLine? : List Char → Option (List Char)
  | '\n' :: rest => some rest
  | '\r' :: '\n' :: rest => some rest
  | _ => none

/-- Blanks and a comment up to the end of the line. -/
def endLine (text : List Char) : Except Malformed (List Char) :=
  match skipComment (skipBlank text) with
  | [] => .ok []
  | rest => match newLine? rest with
    | some rest => .ok rest
    | none => fault rest

/-- Blanks, comments and line breaks inside brackets. -/
def skipSpace : Nat → List Char → List Char
  | 0, text => text
  | fuel + 1, text =>
    let rest := skipComment (skipBlank text)
    match newLine? rest with
    | some rest => skipSpace fuel rest
    | none => rest

def hexNumber? (count : Nat) (text : List Char) : Option Nat :=
  if (text.take count).length < count then none
  else (text.take count).foldlM (fun value digit => (digit? 16 digit).map (value * 16 + ·)) 0

def codeWidth? : Char → Option Nat
  | 'x' => some 2
  | 'u' => some 4
  | 'U' => some 8
  | _ => none

def simpleEscape? : Char → Option Char
  | 'b' => some '\x08'
  | 't' => some '\t'
  | 'n' => some '\n'
  | 'f' => some '\x0c'
  | 'r' => some '\r'
  | 'e' => some '\x1b'
  | '"' => some '"'
  | '\\' => some '\\'
  | _ => none

/-- An escape after its backslash. -/
def readEscape : List Char → Except Malformed (Char × List Char)
  | [] => fault []
  | letter :: rest =>
    match simpleEscape? letter, codeWidth? letter with
    | some character, _ => .ok (character, rest)
    | none, none => fault (letter :: rest)
    | none, some width =>
      match hexNumber? width rest with
      | none => fault rest
      | some code =>
        if code.isValidChar then .ok (Char.ofNat code, rest.drop width) else fault rest

/-- A string on one line after its opening mark, with or without escapes. -/
def readLine (mark : Char) (escapes : Bool) : Nat → List Char → List Char → Except Malformed (List Char × List Char)
  | 0, text, _ => fault text
  | _ + 1, [], _ => fault []
  | fuel + 1, character :: rest, found =>
    if character = mark then .ok (found.reverse, rest)
    else if escapes ∧ character = '\\' then do
      let (decoded, rest) ← readEscape rest
      readLine mark escapes fuel rest (decoded :: found)
    else if isPrintable character then readLine mark escapes fuel rest (character :: found)
    else fault (character :: rest)

/-- How many of the marks that end a string belong to its text: three marks end it, and up to two before
them do not. -/
def closingMarks (mark : Char) (text : List Char) : Nat := (text.takeWhile (· == mark)).length

/-- The text after a backslash that hides the line break after it, and all blanks and breaks that follow. -/
def hiddenBreak? (text : List Char) : Option (List Char) :=
  (newLine? (skipBlank text)).map (·.dropWhile fun character => isBlank character || character == '\n' || character == '\r')

/-- A string on several lines after its three opening marks. -/
def readLines (mark : Char) (escapes : Bool) : Nat → List Char → List Char → Except Malformed (List Char × List Char)
  | 0, text, _ => fault text
  | _ + 1, [], _ => fault []
  | fuel + 1, character :: rest, found =>
    if character = mark then
      let count := closingMarks mark (character :: rest)
      if count < 3 then readLines mark escapes fuel rest (character :: found)
      else
        let kept := min (count - 3) 2
        .ok (found.reverse ++ List.replicate kept mark, (character :: rest).drop (kept + 3))
    else if escapes ∧ character = '\\' then
      match hiddenBreak? rest with
      | some rest => readLines mark escapes fuel rest found
      | none => do
        let (decoded, rest) ← readEscape rest
        readLines mark escapes fuel rest (decoded :: found)
    else match newLine? (character :: rest) with
      | some rest => readLines mark escapes fuel rest ('\n' :: found)
      | none =>
        if isPrintable character then readLines mark escapes fuel rest (character :: found)
        else fault (character :: rest)

/-- A string at its opening mark. A line break right after three marks does not count. -/
def readString (mark : Char) (text : List Char) : Except Malformed (String × List Char) := do
  let escapes := mark == '"'
  let (found, rest) ←
    if text.take 3 = [mark, mark, mark] then
      let body := text.drop 3
      readLines mark escapes text.length ((newLine? body).getD body) []
    else readLine mark escapes text.length (text.drop 1) []
  return (String.ofList found, rest)

def isBareKeyChar (character : Char) : Bool :=
  ('a' ≤ character && character ≤ 'z') || ('A' ≤ character && character ≤ 'Z') || isDigit character
    || character == '_' || character == '-'

def readSimpleKey (text : List Char) : Except Malformed (Key × List Char) := do
  match text with
  | '"' :: rest =>
    let (name, after) ← readLine '"' true text.length rest []
    return (⟨String.ofList name, text.length⟩, after)
  | '\'' :: rest =>
    let (name, after) ← readLine '\'' false text.length rest []
    return (⟨String.ofList name, text.length⟩, after)
  | text =>
    let name := text.takeWhile isBareKeyChar
    if name.isEmpty then fault text
    return (⟨String.ofList name, text.length⟩, text.drop name.length)

/-- A key with its path, up to the blanks after it. -/
def readKey : Nat → List Char → Except Malformed ((List Key × Key) × List Char)
  | 0, text => fault text
  | fuel + 1, text => do
    let (first, rest) ← readSimpleKey (skipBlank text)
    match skipBlank rest with
    | '.' :: rest => do
      let ((path, last), rest) ← readKey fuel rest
      return ((first :: path, last), rest)
    | rest => return (([], first), rest)

def isBareValueChar (character : Char) : Bool :=
  isBareKeyChar character || character == '+' || character == '.' || character == ':'

/-- A value without quotation marks. A blank may stand between a date and a time. -/
def readBare (text : List Char) : Except Malformed (Item × List Char) :=
  let token := text.takeWhile isBareValueChar
  let token := match text.drop token.length with
    | ' ' :: next :: rest =>
      if date? token = some [] ∧ isDigit next then token ++ ' ' :: (next :: rest).takeWhile isBareValueChar
      else token
    | _ => token
  match Item.ofBare? token with
  | some item => .ok (item, text.drop token.length)
  | none => fault text

/-- How deep arrays and inline tables may nest. -/
def nestingLimit : Nat := 80

mutual

/-- A value with at most so many arrays and inline tables around each of its parts. -/
def readValue (fuel depth : Nat) (text : List Char) : Except Malformed (Item × List Char) :=
  match fuel with
  | 0 => fault text
  | fuel + 1 =>
    match text with
    | '"' :: _ => (readString '"' text).map fun (found, rest) => (.string found, rest)
    | '\'' :: _ => (readString '\'' text).map fun (found, rest) => (.string found, rest)
    | '[' :: rest =>
      if depth = 0 then fault text
      else (readItems fuel (depth - 1) rest).map fun (items, rest) => (.array items, rest)
    | '\x7b' :: rest =>
      if depth = 0 then fault text
      else (readMembers fuel (depth - 1) [] rest).map fun (entries, rest) => (.table .inline entries, rest)
    | text => readBare text

/-- The items of an array after its opening bracket or a comma. -/
def readItems (fuel depth : Nat) (text : List Char) : Except Malformed ((List (Place × Item)) × List Char) :=
  match fuel with
  | 0 => fault text
  | fuel + 1 =>
    match skipSpace text.length text with
    | ']' :: rest => .ok ([], rest)
    | start => do
      let (item, rest) ← readValue fuel depth start
      match skipSpace rest.length rest with
      | ',' :: rest => do
        let (items, rest) ← readItems fuel depth rest
        return ((start.length, item) :: items, rest)
      | ']' :: rest => return ([(start.length, item)], rest)
      | rest => fault rest

/-- The members of an inline table after its opening brace or a comma. -/
def readMembers (fuel depth : Nat) (entries : Entries) (text : List Char) : Except Malformed (Entries × List Char) :=
  match fuel with
  | 0 => fault text
  | fuel + 1 =>
    match skipSpace text.length text with
    | '\x7d' :: rest => .ok (entries, rest)
    | start => do
      let ((path, key), rest) ← readKey fuel start
      match rest with
      | '=' :: rest =>
        let start := skipBlank rest
        let (item, rest) ← readValue fuel depth start
        let entries ← Entries.assign path key start.length item .header entries
        match skipSpace rest.length rest with
        | ',' :: rest => readMembers fuel depth entries rest
        | '\x7d' :: rest => return (entries, rest)
        | rest => fault rest
      | rest => fault rest

end

/-- The table that a line adds to. -/
structure Draft where
  root : Entries := []
  current : List Key := []

def readHeader (fuel : Nat) (draft : Draft) (text : List Char) : Except Malformed (Draft × List Char) := do
  match text with
  | '[' :: rest =>
    let ((path, key), rest) ← readKey fuel rest
    match rest with
    | ']' :: ']' :: rest => return (⟨← Entries.openArray path key draft.root, path ++ [key]⟩, rest)
    | rest => fault rest
  | rest =>
    let ((path, key), rest) ← readKey fuel rest
    match rest with
    | ']' :: rest => return (⟨← Entries.openTable path key draft.root, path ++ [key]⟩, rest)
    | rest => fault rest

def readAssignment (fuel : Nat) (draft : Draft) (text : List Char) : Except Malformed (Draft × List Char) := do
  let ((path, key), rest) ← readKey fuel text
  match rest with
  | '=' :: rest =>
    let start := skipBlank rest
    let (item, rest) ← readValue fuel nestingLimit start
    let root ← Entries.modify false (Entries.assign path key start.length item) draft.current .header draft.root
    return ({ draft with root }, rest)
  | rest => fault rest

def readLineEntries (fuel : Nat) (draft : Draft) (text : List Char) : Except Malformed Entries :=
  match fuel with
  | 0 => .ok draft.root
  | fuel + 1 => do
    match skipBlank text with
    | [] => return draft.root
    | '#' :: rest => readLineEntries fuel draft (← endLine ('#' :: rest))
    | '[' :: rest => do
      let (draft, rest) ← readHeader rest.length draft rest
      readLineEntries fuel draft (← endLine rest)
    | rest =>
      match newLine? rest with
      | some rest => readLineEntries fuel draft rest
      | none => do
        let (draft, after) ← readAssignment (rest.length + 1) draft rest
        readLineEntries fuel draft (← endLine after)

/-- The tree of a text; a byte order mark at its start does not count. -/
def parse (text : String) : Except Malformed Entries :=
  let text := match text.toList with
    | '\ufeff' :: rest => rest
    | text => text
  readLineEntries (text.length + 1) {} text

end ApiStyle.Toml
