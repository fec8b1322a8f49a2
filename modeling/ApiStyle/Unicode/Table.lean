/-! Tables of characters, written as text: code points and ranges of them in hexadecimal, separated by blanks. -/

namespace ApiStyle.Unicode

/-- The code points from the first to the last. -/
structure Range where
  first : Nat
  last : Nat
deriving DecidableEq, Repr, Inhabited

/-- A range with what belongs to its characters. -/
structure Mapping where
  range : Range
  target : List Nat
deriving DecidableEq, Repr, Inhabited

namespace Table

def digitValue (digit : Char) : Nat :=
  if digit.isDigit then digit.toNat - '0'.toNat else digit.toNat - 'A'.toNat + 10

def number (digits : List Char) : Nat := digits.foldl (fun value digit => value * 16 + digitValue digit) 0

/-- Cuts a text at the characters that pass a test. -/
def cut (test : Char → Bool) : List Char → List (List Char)
  | [] => [[]]
  | character :: rest =>
    if test character then [] :: cut test rest
    else match cut test rest with
      | [] => [[character]]
      | piece :: pieces => (character :: piece) :: pieces

def words (text : String) : List (List Char) :=
  (cut (fun character => character == ' ' || character == '\n') text.toList).filter (!·.isEmpty)

end Table

namespace Range

def contains (range : Range) (code : Nat) : Bool := range.first ≤ code && code ≤ range.last

def ofWord (word : List Char) : Range :=
  match (Table.cut (· == '-') word).map Table.number with
  | [first, last] => ⟨first, last⟩
  | numbers => ⟨numbers.headD 0, numbers.headD 0⟩

def listOf (text : String) : List Range := (Table.words text).map ofWord

def anyContains (ranges : List Range) (character : Char) : Bool :=
  ranges.any (·.contains character.toNat)

end Range

namespace Mapping

def ofWord (word : List Char) : Mapping :=
  match Table.cut (· == '>') word with
  | [range, target] => ⟨.ofWord range, (Table.cut (· == '.') target).map Table.number⟩
  | _ => ⟨.ofWord word, []⟩

def listOf (text : String) : List Mapping := (Table.words text).map ofWord

def find? (mappings : List Mapping) (code : Nat) : Option Mapping :=
  List.find? (·.range.contains code) mappings

/-- The characters for a code point of the range. A single one moves along with the code point. -/
def apply (mapping : Mapping) (code : Nat) : List Char :=
  match mapping.target with
  | [target] => [Char.ofNat (target + (code - mapping.range.first))]
  | targets => targets.map Char.ofNat

end Mapping

end ApiStyle.Unicode
