import ApiStyle.Json.Basic

/-! Reading JSON text. A draft is the tree of a text up to its first fault: where the text stops being
JSON the tree holds a broken leaf, and nothing follows that leaf in document order. A decoder that
walks the draft in order therefore meets wrong data and wrong text in the order of the text.
A string whose escapes name a lone surrogate has no value but ends where it ends, so it is a fault only
for a decoder that wants its text. -/

namespace ApiStyle

/-- Where a text stops being JSON, counted from its end so that it can be told without the text before. -/
structure Mark where
  /-- characters not yet read -/
  rest : Nat
  /-- the fault is the next character rather than the last one -/
  peeked : Bool
deriving DecidableEq, Repr

namespace Json

inductive Malformation where
  | openArray | openObject | openString | openValue
  | colon | arraySeparator | objectSeparator | word | value
  | escape | number | control | memberName | surrogate | pairedEscape
  | trailingComma | trailingText
deriving DecidableEq, Repr

def Malformation.message : Malformation → String
  | openArray => "EOF while parsing a list"
  | openObject => "EOF while parsing an object"
  | openString => "EOF while parsing a string"
  | openValue => "EOF while parsing a value"
  | colon => "expected `:`"
  | arraySeparator => "expected `,` or `]`"
  | objectSeparator => "expected `,` or `\x7d`"
  | word => "expected ident"
  | value => "expected value"
  | escape => "invalid escape"
  | number => "invalid number"
  | control => "control character (\\u0000-\\u001F) found while parsing a string"
  | memberName => "key must be a string"
  | surrogate => "lone leading surrogate in hex escape"
  | pairedEscape => "unexpected end of hex escape"
  | trailingComma => "trailing comma"
  | trailingText => "trailing characters"

structure Malformed where
  kind : Malformation
  mark : Mark
deriving DecidableEq, Repr

inductive Draft where
  | null
  | bool (value : Bool)
  | number (value : Numeral)
  | string (text : Except Malformed String)
  | array (items : List Draft)
  | object (members : List (Except Malformed String × Draft))
  | broken (fault : Malformed)

namespace Draft

/-- A fault at the next character. -/
def ahead (kind : Malformation) (text : List Char) : Malformed := ⟨kind, text.length, true⟩

/-- A fault at the character just read. -/
def behind (kind : Malformation) (text : List Char) : Malformed := ⟨kind, text.length, false⟩

def isBlank (character : Char) : Bool :=
  character == ' ' || character == '\n' || character == '\t' || character == '\r'

def skipBlank (text : List Char) : List Char := text.dropWhile isBlank

/-- The other letters of a word whose first letter has been read. -/
def readWord : List Char → List Char → Except Malformed (Unit × List Char)
  | [], text => .ok ((), text)
  | _ :: _, [] => .error (behind .openValue [])
  | letter :: letters, character :: text =>
    if letter = character then readWord letters text else .error (behind .word text)

def readDigits : List Char → List Digit × List Char
  | [] => ([], [])
  | character :: text =>
    match Digit.ofChar? character with
    | none => ([], character :: text)
    | some digit =>
      let (digits, rest) := readDigits text
      (digit :: digits, rest)

def readWhole : List Char → Except Malformed (Nat × List Char)
  | [] => .error (behind .openValue [])
  | character :: text =>
    match Digit.ofChar? character with
    | none => .error (behind .number text)
    | some digit =>
      let (digits, rest) := readDigits text
      if digit = .zero then
        if digits.isEmpty then .ok (0, rest) else .error (ahead .number text)
      else .ok (Digit.toNat (digit :: digits), rest)

def readFraction : List Char → Except Malformed (List Digit × List Char)
  | '.' :: text =>
    match readDigits text with
    | ([], []) => .error (ahead .openValue [])
    | ([], rest) => .error (ahead .number rest)
    | (digits, rest) => .ok (digits, rest)
  | text => .ok ([], text)

def readPower (negative : Bool) : List Char → Except Malformed (Option Int × List Char)
  | [] => .error (behind .openValue [])
  | character :: text =>
    match Digit.ofChar? character with
    | none => .error (behind .number text)
    | some digit =>
      let (digits, rest) := readDigits text
      let power : Int := Digit.toNat (digit :: digits)
      .ok (some (if negative then -power else power), rest)

def readExponent : List Char → Except Malformed (Option Int × List Char)
  | character :: text =>
    if character = 'e' ∨ character = 'E' then
      match text with
      | '+' :: rest => readPower false rest
      | '-' :: rest => readPower true rest
      | rest => readPower false rest
    else .ok (none, character :: text)
  | [] => .ok (none, [])

def readNumeral (text : List Char) : Except Malformed (Numeral × List Char) := do
  let (negative, text) := match text with
    | '-' :: rest => (true, rest)
    | rest => (false, rest)
  let (whole, text) ← readWhole text
  let (fraction, text) ← readFraction text
  let (exponent, text) ← readExponent text
  return (⟨negative, whole, fraction, exponent⟩, text)

def hexValue? (character : Char) : Option Nat :=
  let code := character.toNat
  if 48 ≤ code ∧ code ≤ 57 then some (code - 48)
  else if 97 ≤ code ∧ code ≤ 102 then some (code - 87)
  else if 65 ≤ code ∧ code ≤ 70 then some (code - 55)
  else none

def readHex : List Char → Except Malformed (Nat × List Char)
  | a :: b :: c :: d :: rest =>
    match hexValue? a, hexValue? b, hexValue? c, hexValue? d with
    | some a, some b, some c, some d => .ok (((a * 16 + b) * 16 + c) * 16 + d, rest)
    | _, _, _, _ => .error (behind .escape rest)
  | _ => .error (behind .openString [])

def isHighSurrogate (code : Nat) : Bool := 0xD800 ≤ code && code ≤ 0xDBFF

def isLowSurrogate (code : Nat) : Bool := 0xDC00 ≤ code && code ≤ 0xDFFF

/-- The character of a `\u` escape; a leading surrogate takes its partner's escape with it. A surrogate
without its partner has no character, and the text goes on after its own escape. -/
def readCode (text : List Char) : Except Malformed (Except Malformed Char × List Char) := do
  let (code, rest) ← readHex text
  if isLowSurrogate code then .ok (.error (behind .surrogate rest), rest)
  else if isHighSurrogate code then
    match rest with
    | '\\' :: 'u' :: partner =>
      match readHex partner with
      | .error fault => .ok (.error fault, rest)
      | .ok (low, after) =>
        if isLowSurrogate low then
          .ok (.ok (Char.ofNat (0x10000 + (code - 0xD800) * 0x400 + (low - 0xDC00))), after)
        else .ok (.error (behind .surrogate after), rest)
    | '\\' :: _ :: after => .ok (.error (behind .pairedEscape after), rest)
    | _ :: after => .ok (.error (behind .pairedEscape after), rest)
    | [] => .ok (.error (behind .openString []), rest)
  else .ok (.ok (Char.ofNat code), rest)

def simpleEscape? : Char → Option Char
  | '"' => some '"'
  | '\\' => some '\\'
  | '/' => some '/'
  | 'b' => some '\x08'
  | 'f' => some '\x0c'
  | 'n' => some '\n'
  | 'r' => some '\r'
  | 't' => some '\t'
  | _ => none

/-- Adds a character to the text read so far, which is kept backwards; the first fault stays. -/
def push (found : Except Malformed (List Char)) (character : Except Malformed Char) :
    Except Malformed (List Char) := do
  let found ← found
  return (← character) :: found

/-- The rest of a string after its opening quotation mark. -/
def readText : Nat → Except Malformed (List Char) → List Char →
    Except Malformed (Except Malformed (List Char) × List Char)
  | 0, _, text => .error (behind .openString text)
  | _ + 1, _, [] => .error (behind .openString [])
  | fuel + 1, found, character :: text =>
    if character = '"' then .ok (found.map List.reverse, text)
    else if character = '\\' then
      match text with
      | [] => .error (behind .openString [])
      | 'u' :: code => do
        let (decoded, rest) ← readCode code
        readText fuel (push found decoded) rest
      | escape :: rest =>
        match simpleEscape? escape with
        | none => .error (behind .escape rest)
        | some decoded => readText fuel (push found (.ok decoded)) rest
    else if character.toNat < 0x20 then .error (behind .control text)
    else readText fuel (push found (.ok character)) text

def readString (fuel : Nat) (text : List Char) : Except Malformed (Except Malformed String × List Char) := do
  let (content, rest) ← readText fuel (.ok []) text
  return (content.map String.ofList, rest)

/-- Every step of a loop and of a descent takes one unit of fuel, so two units for each character are enough. -/
def fuelFor (text : List Char) : Nat := 2 * text.length + 2

/-- Stops with a broken leaf. -/
def stop (fault : Malformed) : Draft × Option (List Char) := (.broken fault, none)

def ofStep (wrap : α → Draft) : Except Malformed (α × List Char) → Draft × Option (List Char)
  | .ok (value, rest) => (wrap value, some rest)
  | .error fault => stop fault

/-- A member that could not even be begun. -/
def brokenMember (fault : Malformed) : Except Malformed String × Draft := (.error fault, .broken fault)

mutual

/-- A value at the start of the text, blanks before it skipped. -/
def readValue : Nat → List Char → Draft × Option (List Char)
  | 0, text => stop (ahead .value text)
  | fuel + 1, text =>
    match skipBlank text with
    | [] => stop (ahead .openValue [])
    | 'n' :: rest => ofStep (fun _ => .null) (readWord "ull".toList rest)
    | 't' :: rest => ofStep (fun _ => .bool true) (readWord "rue".toList rest)
    | 'f' :: rest => ofStep (fun _ => .bool false) (readWord "alse".toList rest)
    | '"' :: rest => ofStep .string (readString fuel rest)
    | '[' :: rest =>
      match skipBlank rest with
      | [] => (.array [.broken (ahead .openArray [])], none)
      | ']' :: rest => (.array [], some rest)
      | rest =>
        let (items, rest) := readItems fuel rest
        (.array items, rest)
    | '\x7b' :: rest =>
      match skipBlank rest with
      | [] => (.object [brokenMember (ahead .openObject [])], none)
      | '\x7d' :: rest => (.object [], some rest)
      | '"' :: rest =>
        let (members, rest) := readMembers fuel rest
        (.object members, rest)
      | rest => (.object [brokenMember (ahead .memberName rest)], none)
    | character :: rest =>
      if character = '-' ∨ (Digit.ofChar? character).isSome then ofStep .number (readNumeral (character :: rest))
      else stop (ahead .value (character :: rest))

/-- The items of an array from the first one on. -/
def readItems : Nat → List Char → List Draft × Option (List Char)
  | 0, text => ([.broken (ahead .value text)], none)
  | fuel + 1, text =>
    match readValue fuel text with
    | (item, none) => ([item], none)
    | (item, some rest) =>
      match skipBlank rest with
      | [] => ([item, .broken (ahead .openArray [])], none)
      | ']' :: rest => ([item], some rest)
      | ',' :: rest =>
        match skipBlank rest with
        | [] => ([item, .broken (ahead .openValue [])], none)
        | ']' :: rest => ([item, .broken (ahead .trailingComma (']' :: rest))], none)
        | rest =>
          let (items, rest) := readItems fuel rest
          (item :: items, rest)
      | rest => ([item, .broken (ahead .arraySeparator rest)], none)

/-- The members of an object from inside the first key on. -/
def readMembers : Nat → List Char → List (Except Malformed String × Draft) × Option (List Char)
  | 0, text => ([brokenMember (ahead .value text)], none)
  | fuel + 1, text =>
    match readString fuel text with
    | .error fault => ([brokenMember fault], none)
    | .ok (key, rest) =>
      match skipBlank rest with
      | [] => ([(key, .broken (ahead .openObject []))], none)
      | ':' :: rest =>
        match readValue fuel rest with
        | (value, none) => ([(key, value)], none)
        | (value, some rest) =>
          match skipBlank rest with
          | [] => ([(key, value), brokenMember (ahead .openObject [])], none)
          | '\x7d' :: rest => ([(key, value)], some rest)
          | ',' :: rest =>
            match skipBlank rest with
            | [] => ([(key, value), brokenMember (ahead .openValue [])], none)
            | '"' :: rest =>
              let (members, rest) := readMembers fuel rest
              ((key, value) :: members, rest)
            | '\x7d' :: rest => ([(key, value), brokenMember (ahead .trailingComma ('\x7d' :: rest))], none)
            | rest => ([(key, value), brokenMember (ahead .memberName rest)], none)
          | rest => ([(key, value), brokenMember (ahead .objectSeparator rest)], none)
      | rest => ([(key, .broken (ahead .colon rest))], none)

end

/-- A whole text: its draft, and the fault of any text that follows. -/
def ofText (text : List Char) : Draft × Option Malformed :=
  match readValue (fuelFor text) text with
  | (draft, none) => (draft, none)
  | (draft, some rest) =>
    match skipBlank rest with
    | [] => (draft, none)
    | rest => (draft, some (ahead .trailingText rest))

mutual

/-- The first fault that stops a reader who wants none of the values. -/
def firstFault : Draft → Option Malformed
  | .broken fault => some fault
  | .array items => firstFaultOfItems items
  | .object members => firstFaultOfMembers members
  | _ => none

def firstFaultOfItems : List Draft → Option Malformed
  | [] => none
  | item :: items => (firstFault item).or (firstFaultOfItems items)

def firstFaultOfMembers : List (Except Malformed String × Draft) → Option Malformed
  | [] => none
  | (_, value) :: members => (firstFault value).or (firstFaultOfMembers members)

end

end Draft

mutual

/-- The draft of a text that has been read without a fault. -/
def toDraft : Json → Draft
  | .null => .null
  | .bool value => .bool value
  | .number value => .number value
  | .string text => .string (.ok text)
  | .array items => .array (toDraftItems items)
  | .object members => .object (toDraftMembers members)

def toDraftItems : List Json → List Draft
  | [] => []
  | item :: items => toDraft item :: toDraftItems items

def toDraftMembers : List (String × Json) → List (Except Malformed String × Draft)
  | [] => []
  | (key, value) :: members => (.ok key, toDraft value) :: toDraftMembers members

end

end Json

end ApiStyle
