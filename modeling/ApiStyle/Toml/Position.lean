import ApiStyle.Text.Position
import ApiStyle.Text.Split
import ApiStyle.Toml.Decode

/-! Where the fault of a TOML text is. It is told with the line it is on and marked below that line. -/

namespace ApiStyle.Toml.Fault

/-- The line and the column of a place, both from zero. The end of the text is one column after its last character. -/
def position (text : List Char) (place : Place) : Nat × Nat :=
  let count := text.length - place
  let passed := if place = 0 then count - 1 else count
  let read := text.take passed
  (Text.lineCount read, (Text.lastLine read).length + (count - passed))

/-- How many characters a refused key or value takes. -/
def width (fault : Fault) (text : List Char) : Nat :=
  match fault with
  | .refused _ (.unknownField ..) =>
    match readSimpleKey text with
    | .ok (_, rest) => text.length - rest.length
    | .error _ => 1
  | .refused .. =>
    match readValue (text.length + 1) nestingLimit text with
    | .ok (_, rest) => text.length - rest.length
    | .error _ => 1
  | _ => 1

def spaces (count : Nat) : String := String.ofList (List.replicate count ' ')

def located (text : String) (fault : Fault) : String :=
  match fault.place? with
  | none => fault.message ++ "\n"
  | some place =>
    let characters := text.toList
    let (line, column) := position characters place
    let content := (Text.split '\n' text)[line]?.getD ""
    let number := toString (line + 1)
    let gutter := spaces (number.length + 1)
    let marked := min (fault.width (characters.drop (characters.length - place))) (content.length - column)
    "\n".intercalate
      ["TOML parse error at line " ++ number ++ ", column " ++ toString (column + 1),
        gutter ++ "|", number ++ " | " ++ content,
        gutter ++ "|" ++ spaces (column + 1) ++ String.ofList (List.replicate (max marked 1) '^'),
        fault.message, ""]

end ApiStyle.Toml.Fault
