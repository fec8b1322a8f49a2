/-! Lines and columns in texts. -/

namespace ApiStyle.Text

/-- The text after the last line break. -/
def lastLine (text : List Char) : List Char := (text.reverse.takeWhile (· ≠ '\n')).reverse

/-- How many lines end in a text. -/
def lineCount (text : List Char) : Nat := text.count '\n'

def byteCount (text : List Char) : Nat :=
  text.foldl (fun bytes character => bytes + character.utf8Size) 0

end ApiStyle.Text
