import ApiStyle.Json.Decode
import ApiStyle.Text.Position

/-! Where the fault of a JSON text is. Wrong text knows its place; wrong data is found again by walking down the
steps to it. Lines count from one, and columns are the bytes read of the line. -/

namespace ApiStyle.Json

namespace Fault

open Draft

/-- What follows the value at the start of a text. -/
def afterValue (text : List Char) : List Char := ((readValue (fuelFor text) text).2).getD []

/-- What follows a key and the blanks after it. -/
def afterKey (text : List Char) : List Char :=
  match text with
  | '"' :: rest =>
    match readString (fuelFor rest) rest with
    | .ok (_, rest) => skipBlank rest
    | .error _ => []
  | rest => rest

def memberValue (text : List Char) : List Char :=
  match afterKey text with
  | ':' :: rest => skipBlank rest
  | rest => rest

/-- The start of an item, counted from an item's start. -/
def itemFrom : Nat → List Char → List Char
  | 0, text => text
  | index + 1, text =>
    match skipBlank (afterValue text) with
    | ',' :: rest => itemFrom index (skipBlank rest)
    | rest => rest

/-- The key of a member, counted from a member's key. -/
def memberFrom : Nat → List Char → List Char
  | 0, text => text
  | index + 1, text =>
    match skipBlank (afterValue (memberValue text)) with
    | ',' :: rest => memberFrom index (skipBlank rest)
    | rest => rest

/-- What is inside a container at the start of a text. -/
def inside (text : List Char) : List Char := skipBlank (text.drop 1)

/-- The start of the value that steps lead to. -/
def seek : List Step → List Char → List Char
  | [], text => text
  | .item index :: steps, text => seek steps (itemFrom index (inside text))
  | .member index _ :: steps, text => seek steps (memberValue (memberFrom index (inside text)))

def isObject (text : List Char) : Bool := text.head? = some '\x7b'

/-- What was still to be read when a decoder refused, and whether the next character had been looked at. -/
def spotMark (spot : Spot) (start : List Char) : Mark :=
  match spot with
  | .before => ⟨start.length, false⟩
  | .ahead => ⟨start.length, true⟩
  | .after => ⟨(afterValue start).length, false⟩
  | .key index => ⟨(afterKey (memberFrom index (inside start))).length, false⟩
  | .part index =>
    if isObject start then
      match skipBlank (afterValue (memberValue (memberFrom index (inside start)))) with
      | '\x7d' :: rest => ⟨rest.length, false⟩
      | rest => ⟨rest.length, false⟩
    else ⟨(itemFrom index (inside start)).length, true⟩

def mark (text : List Char) : Fault → Mark
  | .malformed fault => fault.mark
  | .refused trail spot _ => spotMark spot (seek trail (skipBlank text))

/-- The line and the column of a mark. -/
def position (text : List Char) (mark : Mark) : Nat × Nat :=
  let count := text.length - mark.rest
  let read := text.take count
  let line := Text.lineCount read + 1
  let column := Text.byteCount (Text.lastLine read)
  if mark.peeked then
    match text.drop count with
    | [] => (line, column)
    | '\n' :: _ => (line + 1, 0)
    | _ => (line, column + 1)
  else (line, column)

def located (text : String) (fault : Fault) : String :=
  let (line, column) := position text.toList (fault.mark text.toList)
  fault.message ++ " at line " ++ toString line ++ " column " ++ toString column

end Fault

end ApiStyle.Json
