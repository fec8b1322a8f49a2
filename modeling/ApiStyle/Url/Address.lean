import ApiStyle.Decimal.Power
import ApiStyle.Text.Split

/-! Numeric addresses of hosts, of four bytes or of eight groups. -/

namespace ApiStyle.Address

def decimalDigit? (character : Char) : Option Nat :=
  if '0' ≤ character ∧ character ≤ '9' then some (character.toNat - '0'.toNat) else none

def hexDigit? (character : Char) : Option Nat :=
  if 'a' ≤ character ∧ character ≤ 'f' then some (character.toNat - 'a'.toNat + 10)
  else if 'A' ≤ character ∧ character ≤ 'F' then some (character.toNat - 'A'.toNat + 10)
  else decimalDigit? character

def digitIn? (base : Nat) (character : Char) : Option Nat := (hexDigit? character).filter (· < base)

def number? (base : Nat) (digits : List Char) : Option Nat :=
  digits.foldlM (fun value digit => (digitIn? base digit).map (value * base + ·)) 0

/-- A part of an address: decimal, octal after a zero, hexadecimal after a zero and an x. -/
def partValue? : List Char → Option Nat
  | [] => none
  | '0' :: 'x' :: digits => number? 16 digits
  | '0' :: 'X' :: digits => number? 16 digits
  | '0' :: digit :: digits => number? 8 (digit :: digits)
  | digits => number? 10 digits

/-- The parts of a host; an empty one at the end does not count. -/
def parts (host : List Char) : List (List Char) :=
  let parts := Text.pieces '.' host
  if parts.getLast? = some [] then parts.dropLast else parts

/-- Whether a host can only be an address, because it ends in a number. -/
def endsInNumber (host : List Char) : Bool :=
  match (parts host).getLast? with
  | none => false
  | some [] => false
  | some last => last.all (fun character => (decimalDigit? character).isSome) || (partValue? last).isSome

/-- At most four parts: a byte each, but the last one for all the bytes that are left. -/
def isFourBytes (host : List Char) : Bool :=
  match ((parts host).mapM partValue?).map List.reverse with
  | some (last :: others) =>
    others.length < 4 && others.all (· < 256) && last < twoTo (8 * (4 - others.length))
  | _ => false

/-- A byte in decimal without a superfluous zero. -/
def isPlainByte (digits : List Char) : Bool :=
  match number? 10 digits with
  | none => false
  | some value => !digits.isEmpty && value < 256 && (digits.length = 1 || digits.head? != some '0')

def isPlainFourBytes (text : List Char) : Bool :=
  let parts := Text.pieces '.' text
  parts.length = 4 && parts.all isPlainByte

/-- Reads up to four hexadecimal digits. -/
def takeGroup (text : List Char) : List Char × List Char :=
  let digits := (text.take 4).takeWhile fun character => (hexDigit? character).isSome
  (digits, text.drop digits.length)

/-- The number of groups is right: eight, or less if two colons stand for the others. -/
def isComplete (count : Nat) (shortened : Bool) : Bool := shortened || count = 8

/-- The groups from one on. Two bytes of a plain address make a group, and only at the end. -/
def readGroups : Nat → Nat → Bool → List Char → Bool
  | 0, _, _, _ => false
  | _ + 1, count, shortened, [] => isComplete count shortened
  | fuel + 1, count, shortened, text =>
    if 8 ≤ count then false
    else match text with
      | ':' :: rest => !shortened && readGroups fuel (count + 1) true rest
      | _ =>
        match takeGroup text with
        | (_, []) => isComplete (count + 1) shortened
        | ([], _) => false
        | (_, ':' :: rest) => !rest.isEmpty && readGroups fuel (count + 1) shortened rest
        | (_, '.' :: _) => count ≤ 6 && isPlainFourBytes text && isComplete (count + 2) shortened
        | _ => false

/-- An address as it stands between brackets. -/
def isEightGroups (text : List Char) : Bool :=
  match text with
  | ':' :: ':' :: rest => readGroups (text.length + 1) 1 true rest
  | ':' :: _ => false
  | _ :: _ :: _ => readGroups (text.length + 1) 0 false text
  | _ => false

end ApiStyle.Address
