/-! Text in markup: the characters that markup is made of are written as entities. -/

namespace ApiStyle.Text.Entities

def entity? : Char → Option String
  | '&' => some "&amp;"
  | '<' => some "&lt;"
  | '>' => some "&gt;"
  | '"' => some "&quot;"
  | '\'' => some "&apos;"
  | _ => none

def encodeChar (character : Char) : List Char :=
  match entity? character with
  | some text => text.toList
  | none => [character]

def encode (text : String) : String := String.ofList (text.toList.flatMap encodeChar)

end ApiStyle.Text.Entities
