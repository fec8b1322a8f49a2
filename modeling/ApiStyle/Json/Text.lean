import ApiStyle.Json.Basic

/-! The two written forms of a tree: compact, and laid out with two blanks per level. -/

namespace ApiStyle.Json

def hexDigit (value : Nat) : Char := Nat.digitChar value

/-- Quotation mark, backslash and the control characters are escaped, everything else stands for itself. -/
def escaped (character : Char) : List Char :=
  match character with
  | '"' => ['\\', '"']
  | '\\' => ['\\', '\\']
  | '\n' => ['\\', 'n']
  | '\r' => ['\\', 'r']
  | '\t' => ['\\', 't']
  | '\x08' => ['\\', 'b']
  | '\x0c' => ['\\', 'f']
  | _ =>
    if character.toNat < 0x20 then
      ['\\', 'u', '0', '0', hexDigit (character.toNat / 16), hexDigit (character.toNat % 16)]
    else [character]

def quoted (text : List Char) : List Char := '"' :: text.flatMap escaped ++ ['"']

def separated (separator : List Char) : List (List Char) → List Char
  | [] => []
  | [text] => text
  | text :: rest => text ++ separator ++ separated separator rest

def boolText (value : Bool) : List Char := if value then "true".toList else "false".toList

mutual

def compact : Json → List Char
  | .null => "null".toList
  | .bool value => boolText value
  | .number value => value.text
  | .string value => quoted value.toList
  | .array items => '[' :: separated [','] (compactItems items) ++ [']']
  | .object members => '\x7b' :: separated [','] (compactMembers members) ++ ['\x7d']

def compactItems : List Json → List (List Char)
  | [] => []
  | item :: items => compact item :: compactItems items

def compactMembers : List (String × Json) → List (List Char)
  | [] => []
  | (key, value) :: members => (quoted key.toList ++ ':' :: compact value) :: compactMembers members

end

def newline (depth : Nat) : List Char := '\n' :: List.replicate (2 * depth) ' '

/-- An empty container stays on its line; otherwise each entry starts a line of its own. -/
def block (opening closing : Char) (depth : Nat) (entries : List (List Char)) : List Char :=
  if entries.isEmpty then [opening, closing]
  else opening :: newline (depth + 1) ++ separated (',' :: newline (depth + 1)) entries ++ newline depth ++ [closing]

mutual

def pretty (depth : Nat) : Json → List Char
  | .null => "null".toList
  | .bool value => boolText value
  | .number value => value.text
  | .string value => quoted value.toList
  | .array items => block '[' ']' depth (prettyItems (depth + 1) items)
  | .object members => block '\x7b' '\x7d' depth (prettyMembers (depth + 1) members)

def prettyItems (depth : Nat) : List Json → List (List Char)
  | [] => []
  | item :: items => pretty depth item :: prettyItems depth items

def prettyMembers (depth : Nat) : List (String × Json) → List (List Char)
  | [] => []
  | (key, value) :: members =>
    (quoted key.toList ++ ':' :: ' ' :: pretty depth value) :: prettyMembers depth members

end

def compactText (tree : Json) : String := String.ofList tree.compact

def prettyText (tree : Json) : String := String.ofList (tree.pretty 0)

end ApiStyle.Json
