import ApiStyle.Unicode.CompositionTable

/-! The composed form of a text: letters and marks are taken apart, marks of one letter are put in order, and
whatever has a composite is put together again. Syllables of Hangul are composed by arithmetic: of a leading consonant,
a vowel, and maybe a trailing consonant. -/

namespace ApiStyle.Unicode

def markClass (character : Char) : Nat :=
  if character.toNat < 0x300 then 0
  else match Mapping.find? markClasses character.toNat with
    | some mapping => mapping.target.headD 0
    | none => 0

namespace Hangul

def syllableBase : Nat := 0xAC00
def leadingBase : Nat := 0x1100
def vowelBase : Nat := 0x1161
def trailingBase : Nat := 0x11A7
def leadingCount : Nat := 19
def vowelCount : Nat := 21
def trailingCount : Nat := 28

def decompose? (character : Char) : Option (List Char) :=
  let index := character.toNat - syllableBase
  if syllableBase ≤ character.toNat ∧ index < leadingCount * vowelCount * trailingCount then
    let leading := Char.ofNat (leadingBase + index / (vowelCount * trailingCount))
    let vowel := Char.ofNat (vowelBase + index % (vowelCount * trailingCount) / trailingCount)
    let trailing := index % trailingCount
    some (leading :: vowel :: if trailing = 0 then [] else [Char.ofNat (trailingBase + trailing)])
  else none

def compose? (first second : Char) : Option Char :=
  let leading := first.toNat - leadingBase
  let vowel := second.toNat - vowelBase
  let index := first.toNat - syllableBase
  let trailing := second.toNat - trailingBase
  if leadingBase ≤ first.toNat ∧ leading < leadingCount ∧ vowelBase ≤ second.toNat ∧ vowel < vowelCount then
    some (Char.ofNat (syllableBase + (leading * vowelCount + vowel) * trailingCount))
  else if syllableBase ≤ first.toNat ∧ index < leadingCount * vowelCount * trailingCount ∧ index % trailingCount = 0
      ∧ trailingBase < second.toNat ∧ trailing < trailingCount then
    some (Char.ofNat (first.toNat + trailing))
  else none

end Hangul

/-- The two parts of a composite. -/
def parts? (character : Char) : Option (Char × Char) :=
  if character.toNat < 0x80 then none
  else match Mapping.find? composites character.toNat with
    | some ⟨_, [first, second]⟩ => some (Char.ofNat first, Char.ofNat second)
    | _ => none

/-- Takes a character apart. Composites nest less deep than this. -/
def decompose : Nat → Char → List Char
  | 0, character => [character]
  | depth + 1, character =>
    match Hangul.decompose? character, parts? character with
    | some parts, _ => parts
    | none, some (first, second) => decompose depth first ++ [second]
    | none, none => [character]

/-- Inserts a mark, before the ones of a higher class, into marks that were put in order backwards. -/
def insertMark (mark : Nat × Char) : List (Nat × Char) → List (Nat × Char)
  | [] => [mark]
  | other :: rest => if mark.1 < other.1 then other :: insertMark mark rest else mark :: other :: rest

/-- Puts the marks between characters without a class in order. The marks at hand are kept backwards. -/
def orderMarks : List (Nat × Char) → List (Nat × Char) → List (Nat × Char)
  | held, [] => held.reverse
  | held, next :: rest =>
    if next.1 = 0 then held.reverse ++ next :: orderMarks [] rest
    else orderMarks (insertMark next held) rest

def compose? (first second : Char) : Option Char :=
  match Hangul.compose? first second with
  | some composite => some composite
  | none =>
    (composites.find? (·.target = [first.toNat, second.toNat])).map fun mapping => Char.ofNat mapping.range.first

/-- Puts marks together with their letter. A mark is blocked by one in between of the same or a higher class, and a
character without a class by anything in between. Passed marks are kept backwards with the class of the last. -/
def composeMarks : Option Char → List Char → Nat → List (Nat × Char) → List Char
  | none, passed, _, [] => passed.reverse
  | some letter, passed, _, [] => letter :: passed.reverse
  | none, passed, _, (order, character) :: rest =>
    if order = 0 then passed.reverse ++ composeMarks (some character) [] 0 rest
    else composeMarks none (character :: passed) order rest
  | some letter, passed, last, (order, character) :: rest =>
    let free := passed.isEmpty || (last < order && last ≠ 0)
    match if free then compose? letter character else none with
    | some composite => composeMarks (some composite) passed last rest
    | none =>
      if order = 0 then letter :: (passed.reverse ++ composeMarks (some character) [] 0 rest)
      else composeMarks (some letter) (character :: passed) order rest

/-- The composed form of a text. -/
def composed (text : List Char) : List Char :=
  let apart := text.flatMap (decompose 4)
  composeMarks none [] 0 (orderMarks [] (apart.map fun character => (markClass character, character)))

end ApiStyle.Unicode
