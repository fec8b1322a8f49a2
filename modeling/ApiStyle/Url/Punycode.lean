/-! Text beyond ASCII written in ASCII. The characters that are ASCII come first; then each of the others, in order
of its code point, is told by a number that counts its code point and its place together. -/

namespace ApiStyle.Punycode

def base : Nat := 36
def lowThreshold : Nat := 1
def highThreshold : Nat := 26
def firstBias : Nat := 72
def firstCode : Nat := 128

/-- Makes a number so small that it has one digit; each step counts for one digit more. -/
def shrink (delta : Nat) : Nat × Nat :=
  if (base - lowThreshold) * highThreshold / 2 < delta then
    let (delta, steps) := shrink (delta / (base - lowThreshold))
    (delta, steps + base)
  else (delta, 0)
termination_by delta
decreasing_by
  rename_i large
  simp only [base, lowThreshold, highThreshold] at *
  omega

/-- The bias for the next number, after one that was found in a text of some length. -/
def adapt (delta length : Nat) (first : Bool) : Nat :=
  let delta := if first then delta / 700 else delta / 2
  let (delta, steps) := shrink (delta + delta / length)
  steps + (base - lowThreshold + 1) * delta / (delta + 38)

/-- The least digit that does not end a number at the given position. -/
def threshold (bias position : Nat) : Nat := min highThreshold (max lowThreshold (position - bias))

def digitValue? (character : Char) : Option Nat :=
  if 'a' ≤ character ∧ character ≤ 'z' then some (character.toNat - 'a'.toNat)
  else if 'A' ≤ character ∧ character ≤ 'Z' then some (character.toNat - 'A'.toNat)
  else if '0' ≤ character ∧ character ≤ '9' then some (character.toNat - '0'.toNat + 26)
  else none

def digit (value : Nat) : Char :=
  if value < 26 then Char.ofNat ('a'.toNat + value) else Char.ofNat ('0'.toNat + (value - 26))

/-- A number from the position on where its next digit has the given weight. -/
def readNumber (bias : Nat) : Nat → Nat → List Char → Option (Nat × List Char)
  | _, _, [] => none
  | position, weight, character :: rest =>
    match digitValue? character with
    | none => none
    | some value =>
      let least := threshold bias position
      if value < least then some (value * weight, rest)
      else (readNumber bias (position + base) (weight * (base - least)) rest).map fun (higher, rest) =>
        (value * weight + higher, rest)

theorem length_of_readNumber {bias : Nat} {text rest : List Char} {position weight value : Nat}
    (found : readNumber bias position weight text = some (value, rest)) : rest.length < text.length := by
  induction text generalizing position weight value with
  | nil => simp [readNumber] at found
  | cons character text ih =>
    unfold readNumber at found
    split at found
    · simp at found
    · simp only at found
      split at found
      · obtain ⟨_, rfl⟩ := Prod.mk.inj (Option.some.inj found)
        simp
      · obtain ⟨⟨higher, left⟩, inside, equal⟩ := Option.map_eq_some_iff.1 found
        obtain ⟨_, rfl⟩ := Prod.mk.inj equal
        exact Nat.lt_succ_of_lt (ih inside)

/-- Inserts characters at the places that the numbers tell. -/
def insertCodes (code bias place : Nat) (first : Bool) (found : List Char) (text : List Char) : Option (List Char) :=
  if text.isEmpty then some found
  else match _number : readNumber bias base 1 text with
    | none => none
    | some (delta, rest) =>
      let length := found.length + 1
      let code := code + (place + delta) / length
      let place := (place + delta) % length
      if code.isValidChar then
        insertCodes code (adapt delta length first) (place + 1) false
          (found.take place ++ Char.ofNat code :: found.drop place) rest
      else none
termination_by text.length
decreasing_by exact length_of_readNumber _number

/-- Splits at the last dash, unless it stands in front. -/
def splitLiteral (text : List Char) : List Char × List Char :=
  let tail := (text.reverse.takeWhile (· ≠ '-')).reverse
  let literal := text.take (text.length - tail.length - 1)
  if literal.isEmpty then ([], text) else (literal, tail)

def decode? (text : List Char) : Option (List Char) :=
  let (literal, codes) := splitLiteral text
  insertCodes firstCode firstBias 0 true literal codes

theorem threshold_pos (bias position : Nat) : 0 < threshold bias position := by
  simp only [threshold, lowThreshold, highThreshold]
  omega

/-- The digits of a number from a position on. -/
def writeNumber (bias position value : Nat) : List Char :=
  let least := threshold bias position
  if value < least then [digit value]
  else digit (least + (value - least) % (base - least))
    :: writeNumber bias (position + base) ((value - least) / (base - least))
termination_by value
decreasing_by
  have := threshold_pos bias position
  exact Nat.lt_of_le_of_lt (Nat.div_le_self _ _) (by omega)

/-- The state of a writer: what the next number counts, the bias, and how many characters are written. -/
structure Writer where
  delta : Nat
  bias : Nat
  written : Nat
  first : Bool
  output : List Char

/-- Passes a character: smaller code points are counted, and the wanted one is written. -/
def Writer.pass (wanted : Nat) (writer : Writer) (character : Char) : Writer :=
  if character.toNat < wanted then { writer with delta := writer.delta + 1 }
  else if character.toNat = wanted then
    { delta := 0
      bias := adapt writer.delta (writer.written + 1) writer.first
      written := writer.written + 1
      first := false
      output := writer.output ++ writeNumber writer.bias base writer.delta }
  else writer

/-- Writes the characters from a code point on, in rounds over the text. -/
def writeRounds (text : List Char) : Nat → Nat → Writer → Writer
  | 0, _, writer => writer
  | rounds + 1, code, writer =>
    match ((text.map Char.toNat).filter (code ≤ ·)).min? with
    | none => writer
    | some wanted =>
      let writer := { writer with delta := writer.delta + (wanted - code) * (writer.written + 1) }
      let writer := text.foldl (Writer.pass wanted) writer
      writeRounds text rounds (wanted + 1) { writer with delta := writer.delta + 1 }

def encode (text : List Char) : List Char :=
  let literal := text.filter (·.toNat < firstCode)
  let writer := writeRounds text text.length firstCode ⟨0, firstBias, literal.length, true, []⟩
  literal ++ (if literal.isEmpty then [] else ['-']) ++ writer.output

end ApiStyle.Punycode
