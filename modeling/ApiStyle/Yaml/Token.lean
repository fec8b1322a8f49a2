import ApiStyle.Decimal.Power
import ApiStyle.Yaml.Malformed

/-! The tokens of YAML, and the ones that do not depend on where they stand: anchors, tags and directives. -/

namespace ApiStyle.Yaml

/-- How a scalar is written, as far as its meaning depends on it. -/
inductive Style where
  | plain | quoted
deriving DecidableEq, Repr

inductive Token where
  | streamEnd | documentStart | documentEnd
  | version (major minor : Nat)
  | handle (name target : String)
  | blockSequence | blockMapping | blockEnd
  | flowSequence | flowSequenceEnd | flowMapping | flowMappingEnd | flowEntry
  | blockEntry | key | value
  | aliasTo (name : String) | anchor (name : String)
  | tag (handle suffix : String)
  | scalar (style : Style) (text : String)
deriving DecidableEq, Repr

structure Placed where
  token : Token
  start : Position
  stop : Position
deriving DecidableEq, Repr

/-- What may follow the name of an anchor. -/
def endsAnchor (cursor : Cursor) : Bool :=
  cursor.spaceAt 0 || cursor.sees fun character => "?:,]\x7d%@`".toList.contains character

/-- A name after its indicator. -/
def readAnchorName (construct : Construct) (cursor : Cursor) : Except Malformed (String × Cursor) :=
  let start := cursor.position
  let (name, cursor) := (cursor.advance 1).span isWordChar
  if name.isEmpty || !endsAnchor cursor then complain .anchorName cursor.position construct start
  else .ok (String.ofList name, cursor)

def isUriChar (verbatim : Bool) (character : Char) : Bool :=
  isWordChar character || ";/?:@&=+$.%!~*'()".toList.contains character
    || (verbatim && ",[]".toList.contains character)

/-- How many octets the character of a leading octet takes. -/
def octetWidth? (octet : Nat) : Option Nat :=
  if octet < 0x80 then some 1
  else if 0xC0 ≤ octet ∧ octet < 0xE0 then some 2
  else if 0xE0 ≤ octet ∧ octet < 0xF0 then some 3
  else if 0xF0 ≤ octet ∧ octet < 0xF8 then some 4
  else none

/-- An octet written as a percent sign and two digits. -/
def readOctet (construct : Construct) (start : Position) (cursor : Cursor) : Except Malformed (Nat × Cursor) :=
  match cursor.rest with
  | '%' :: high :: low :: _ =>
    match hexValue? high, hexValue? low with
    | some high, some low => .ok (high * 16 + low, cursor.advance 3)
    | _, _ => complain .uriEscape cursor.position construct start
  | _ => complain .uriEscape cursor.position construct start

/-- The other octets of a character, each with its six bits. -/
def readTrailing (construct : Construct) (start : Position) : Nat → Nat → Cursor → Except Malformed (Nat × Cursor)
  | 0, code, cursor => .ok (code, cursor)
  | count + 1, code, cursor => do
    let (octet, after) ← readOctet construct start cursor
    if octet < 0x80 ∨ 0xC0 ≤ octet then complain .trailingOctet cursor.position construct start
    readTrailing construct start count (code * 64 + (octet - 0x80)) after

def readUriEscape (construct : Construct) (start : Position) (cursor : Cursor) : Except Malformed (Char × Cursor) := do
  let (octet, after) ← readOctet construct start cursor
  match octetWidth? octet with
  | none => complain .leadingOctet cursor.position construct start
  | some width =>
    let bits := if width = 1 then octet else octet % twoTo (7 - width)
    let (code, after) ← readTrailing construct start (width - 1) bits after
    return (Char.ofNat code, after)

def readUri (verbatim : Bool) (construct : Construct) (start : Position) :
    Nat → Cursor → List Char → Except Malformed (List Char × Cursor)
  | 0, cursor, found => .ok (found.reverse, cursor)
  | fuel + 1, cursor, found =>
    match cursor.head? with
    | none => .ok (found.reverse, cursor)
    | some character =>
      if character = '%' then do
        let (decoded, cursor) ← readUriEscape construct start cursor
        readUri verbatim construct start fuel cursor (decoded :: found)
      else if isUriChar verbatim character then
        readUri verbatim construct start fuel (cursor.advance 1) (character :: found)
      else .ok (found.reverse, cursor)

/-- A handle: an exclamation mark, a word, and a second mark unless it is the whole handle or, outside
of directives, the start of a tag. -/
def readHandle (inDirective : Bool) (start : Position) (cursor : Cursor) : Except Malformed (List Char × Cursor) := do
  if !cursor.starts '!' then
    complain .handleStart cursor.position (if inDirective then .tagDirectiveStart else .tag) start
  let (word, cursor) := (cursor.advance 1).span isWordChar
  if cursor.starts '!' then return ('!' :: word ++ ['!'], cursor.advance 1)
  if inDirective && !word.isEmpty then complain .handleStart cursor.position .tagDirectiveHandle start
  return ('!' :: word, cursor)

/-- The handle and suffix of a tag. A verbatim tag has no handle, and a lone mark is a suffix. -/
def readTag (inFlow : Bool) (cursor : Cursor) : Except Malformed (String × String × Cursor) := do
  let start := cursor.position
  let (handle, suffix, cursor) ←
    if cursor.ahead? 1 = some '<' then do
      let (uri, cursor) ← readUri true .tagText start cursor.fuel (cursor.advance 2) []
      if uri.isEmpty then complain .tagUri cursor.position .tagText start
      if !cursor.starts '>' then complain .verbatimEnd cursor.position .tag start
      pure ("", String.ofList uri, cursor.advance 1)
    else do
      let (handle, cursor) ← readHandle false start cursor
      let (rest, cursor) ← readUri false .tagText start cursor.fuel cursor []
      if 1 < handle.length ∧ handle.getLast? = some '!' then
        if rest.isEmpty then complain .tagUri cursor.position .tagText start
        pure (String.ofList handle, String.ofList rest, cursor)
      else
        let suffix := handle.drop 1 ++ rest
        pure (if suffix.isEmpty then ("", "!", cursor) else ("!", String.ofList suffix, cursor))
  if !cursor.spaceAt 0 && !(inFlow && cursor.starts ',') then complain .tagEnd cursor.position .tag start
  return (handle, suffix, cursor)

def readVersionNumber (start : Position) (cursor : Cursor) : Except Malformed (Nat × Cursor) := do
  let (digits, after) := cursor.span isDigit
  if 9 < digits.length then complain .versionLength (cursor.advance 9).position .versionDirective start
  if digits.isEmpty then complain .versionNumber cursor.position .versionDirective start
  return (digits.foldl (fun value digit => value * 10 + (digit.toNat - 48)) 0, after)

def readVersion (start : Position) (cursor : Cursor) : Except Malformed (Token × Cursor) := do
  let (major, cursor) ← readVersionNumber start (cursor.skip isBlank)
  if !cursor.starts '.' then complain .versionSeparator cursor.position .versionDirective start
  let (minor, cursor) ← readVersionNumber start (cursor.advance 1)
  return (.version major minor, cursor)

def readHandleDirective (start : Position) (cursor : Cursor) : Except Malformed (Token × Cursor) := do
  let (handle, cursor) ← readHandle true start (cursor.skip isBlank)
  if !cursor.sees isBlank then complain .directiveBlank cursor.position .tagDirectiveValue start
  let (target, cursor) ← readUri true .tagDirectiveUri start cursor.fuel (cursor.skip isBlank) []
  if target.isEmpty then complain .tagUri cursor.position .tagDirectiveUri start
  if !cursor.spaceAt 0 then complain .directiveBlankOrBreak cursor.position .tagDirectiveValue start
  return (.handle (String.ofList handle) (String.ofList target), cursor)

/-- A directive from its percent sign to the end of its line. -/
def readDirective (cursor : Cursor) : Except Malformed (Placed × Cursor) := do
  let start := cursor.position
  let (name, cursor) := (cursor.advance 1).span isWordChar
  if name.isEmpty then complain .directiveName cursor.position .directive start
  if !cursor.spaceAt 0 then complain .directiveLetter cursor.position .directive start
  let (token, cursor) ←
    if name = "YAML".toList then readVersion start cursor
    else if name = "TAG".toList then readHandleDirective start cursor
    else complain .unknownDirective cursor.position .directive start
  let stop := cursor.position
  let cursor := (cursor.skip isBlank).skipComment
  if !cursor.atLineEnd then complain .directiveEnd cursor.position .directive start
  return (⟨token, start, stop⟩, cursor.takeBreak.2)

end ApiStyle.Yaml
