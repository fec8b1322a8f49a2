import ApiStyle.Text.Split
import ApiStyle.Unicode.Composition
import ApiStyle.Unicode.Direction
import ApiStyle.Unicode.HostTable
import ApiStyle.Unicode.Joining
import ApiStyle.Unicode.Mark
import ApiStyle.Url.Punycode

/-! Names of hosts in international form. A name is brought to its plain form: capitals, wide and ligated characters
are replaced, and the rest is composed. Its labels are then checked, and written in ASCII. A label that is already
encoded is checked as what it encodes. -/

namespace ApiStyle.HostName

open Unicode

def encodedMark : List Char := ['x', 'n', '-', '-']

def isAscii (character : Char) : Bool := character.toNat < 0x80

/-- Whether a character stands for itself. -/
def isPlain (character : Char) : Bool :=
  if isAscii character then !('A' ≤ character && character ≤ 'Z') else Range.anyContains hostPlain character

/-- What a character is replaced by, if it may stand in a name at all. -/
def replacement? (character : Char) : Option (List Char) :=
  if isAscii character then some [character.toLower]
  else if Range.anyContains hostPlain character then some [character]
  else if Range.anyContains hostIgnored character then some []
  else (Mapping.find? hostMapped character.toNat).map (·.apply character.toNat)

/-- A name in plain form. -/
def plain? (name : List Char) : Option (List Char) :=
  (name.mapM replacement?).map fun parts => composed parts.flatten

def nonJoiner : Char := '\u200c'

def joiner : Char := '\u200d'

/-- The class of marks that join the letters around them. -/
def viramaClass : Nat := 9

def followsVirama (before : List Char) : Bool :=
  match before with
  | [] => false
  | previous :: _ => markClass previous = viramaClass

/-- Letters on both sides join, and everything between lets joins through. -/
def isBetweenJoined (before after : List Char) : Bool :=
  match before.dropWhile isTransparent, after.dropWhile isTransparent with
  | left :: _, right :: _ => joinsNext left && joinsPrevious right
  | _, _ => false

/-- Whether all joiners stand where they mean something. What stands before is kept backwards. -/
def joinersFit : List Char → List Char → Bool
  | _, [] => true
  | before, character :: after =>
    (if character = nonJoiner then followsVirama before || isBetweenJoined before after
      else character ≠ joiner || followsVirama before)
      && joinersFit (character :: before) after

def isRightToLeft (label : List Char) : Bool :=
  label.any fun character => direction character = .rightToLeft || direction character = .arabicDigit

/-- The directions of a label without the marks at its end, the last one first. -/
def trailing (directions : List Direction) : List Direction := directions.reverse.dropWhile (· = .mark)

/-- Whether a label keeps its order next to labels of the other direction. -/
def directionFits (label : List Char) : Bool :=
  let directions := label.map direction
  match directions with
  | [] => true
  | .rightToLeft :: _ =>
    !directions.contains .leftToRight
      && (match trailing directions with
          | .rightToLeft :: _ => true
          | .digit :: _ => true
          | .arabicDigit :: _ => true
          | _ => false)
      && !(directions.contains .digit && directions.contains .arabicDigit)
  | .leftToRight :: _ =>
    !directions.contains .rightToLeft && !directions.contains .arabicDigit
      && (match trailing directions with
          | .leftToRight :: _ => true
          | .digit :: _ => true
          | _ => false)
  | _ => false

def startsEncoded (label : List Char) : Bool := encodedMark.isPrefixOf label

/-- Whether the characters of a label may stand together. -/
def isProper (label : List Char) : Bool :=
  !startsEncoded label && (label.head?.map isMark).getD false = false && label.all isPlain
    && joinersFit [] label

/-- What a label says, if it is proper. -/
def meaning? (label : List Char) : Option (List Char) :=
  if startsEncoded label then
    if label.all isAscii then
      match Punycode.decode? (label.drop encodedMark.length) with
      | none => none
      | some decoded =>
        if !decoded.all isAscii && composed decoded = decoded && isProper decoded then some decoded else none
    else none
  else if label.all isAscii || isProper label then some label
  else none

def asciiLabel (label : List Char) : List Char :=
  if label.all isAscii then label else encodedMark ++ Punycode.encode label

/-- A name in ASCII, if it is one. -/
def ascii? (name : List Char) : Option (List Char) := do
  let plain ← plain? name
  let labels := Text.pieces '.' plain
  let meanings ← labels.mapM meaning?
  if meanings.any isRightToLeft && !meanings.all directionFits then none
  else return ['.'].intercalate (labels.map asciiLabel)

end ApiStyle.HostName
