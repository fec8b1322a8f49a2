import ApiStyle.Unicode.Hidden

/-! Text quoted for a message: quotation marks, backslashes and everything that cannot be told from its looks is
escaped. -/

namespace ApiStyle.Text

/-- A character by its code point. -/
def codeEscape (character : Char) : List Char :=
  "\\u\x7b".toList ++ Nat.toDigits 16 character.toNat ++ ['\x7d']

def quotedChar (character : Char) : List Char :=
  match character with
  | '\x00' => ['\\', '0']
  | '\t' => ['\\', 't']
  | '\n' => ['\\', 'n']
  | '\r' => ['\\', 'r']
  | '"' => ['\\', '"']
  | '\\' => ['\\', '\\']
  | _ =>
    if character.toNat < 0x20 ∨ character.toNat = 0x7f ∨ Unicode.isHidden character then codeEscape character
    else [character]

def quoted (text : String) : String := String.ofList ('"' :: text.toList.flatMap quotedChar ++ ['"'])

end ApiStyle.Text
