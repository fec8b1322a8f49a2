import ApiStyle.Decimal.Nearest
import ApiStyle.Toml.Tree

/-! Values that are written without quotation marks: truth values, numbers, dates and times. -/

namespace ApiStyle.Toml

def isDigit (character : Char) : Bool := '0' ≤ character && character ≤ '9'

def digit? (radix : Nat) (character : Char) : Option Nat :=
  let code := character.toNat
  let value := if 48 ≤ code ∧ code ≤ 57 then code - 48
    else if 97 ≤ code ∧ code ≤ 102 then code - 87
    else if 65 ≤ code ∧ code ≤ 70 then code - 55
    else radix
  if value < radix then some value else none

/-- Digits with single underscores between them; also how many there are. -/
def digits? (radix : Nat) : List Char → Option (Nat × Nat)
  | [] => none
  | first :: rest => do
    let value ← digit? radix first
    go (value, 1) false rest
where
  go (found : Nat × Nat) (underscore : Bool) : List Char → Option (Nat × Nat)
    | [] => if underscore then none else some found
    | '_' :: rest => if underscore then none else go found true rest
    | character :: rest => do
      let value ← digit? radix character
      go (found.1 * radix + value, found.2 + 1) false rest

/-- A number with more than one digit does not start with zero. -/
def decimal? (text : List Char) : Option Nat := do
  let (value, count) ← digits? 10 text
  if text.head? = some '0' ∧ count ≠ 1 then none else some value

def splitSign : List Char → Bool × List Char
  | '-' :: rest => (true, rest)
  | '+' :: rest => (false, rest)
  | rest => (false, rest)

def integer? (text : List Char) : Option Int :=
  match text with
  | '0' :: 'x' :: rest => (digits? 16 rest).map fun found => Int.ofNat found.1
  | '0' :: 'o' :: rest => (digits? 8 rest).map fun found => Int.ofNat found.1
  | '0' :: 'b' :: rest => (digits? 2 rest).map fun found => Int.ofNat found.1
  | _ =>
    let (negative, rest) := splitSign text
    (decimal? rest).map fun value => if negative then -(value : Int) else value

/-- The sign and digits of an exponent, which may start with zeros. -/
def exponent? (text : List Char) : Option Int :=
  let (negative, rest) := splitSign text
  (digits? 10 rest).map fun (value, _) => if negative then -(value : Int) else value

def isExponentMark (character : Char) : Bool := character == 'e' || character == 'E'

def float? (text : List Char) : Option Float := do
  let (negative, rest) := splitSign text
  let signed (value : Float) := if negative then -value else value
  if rest = "inf".toList then return signed (1.0 / 0.0)
  if rest = "nan".toList then return 0.0 / 0.0
  let mantissa := rest.takeWhile (!isExponentMark ·)
  let tail := rest.dropWhile (!isExponentMark ·)
  let whole := mantissa.takeWhile (· ≠ '.')
  let fraction := mantissa.dropWhile (· ≠ '.')
  if fraction.isEmpty ∧ tail.isEmpty then none
  let value ← decimal? whole
  let (value, places) ← match fraction with
    | [] => some (value, 0)
    | _ :: fraction => (digits? 10 fraction).map fun (digits, count) => (value * tenTo count + digits, count)
  let power ← match tail with
    | [] => some 0
    | _ :: tail => exponent? tail
  return signed (Scaled.toFloat ⟨value, power - places⟩)

/-- Exactly so many digits. -/
def fixed? (count : Nat) (text : List Char) : Option (Nat × List Char) :=
  let taken := text.take count
  if taken.length = count ∧ taken.all isDigit then
    some (taken.foldl (fun value digit => value * 10 + (digit.toNat - 48)) 0, text.drop count)
  else none

def expect? (allowed : List Char) : List Char → Option (List Char)
  | character :: rest => if character ∈ allowed then some rest else none
  | [] => none

def isLeap (year : Nat) : Bool := year % 4 == 0 && (year % 100 != 0 || year % 400 == 0)

def daysOf (year month : Nat) : Nat :=
  if month = 2 then if isLeap year then 29 else 28
  else if month ∈ [4, 6, 9, 11] then 30 else 31

/-- The text after a date. -/
def date? (text : List Char) : Option (List Char) := do
  let (year, text) ← fixed? 4 text
  let (month, text) ← fixed? 2 (← expect? ['-'] text)
  let (day, text) ← fixed? 2 (← expect? ['-'] text)
  if 1 ≤ month ∧ month ≤ 12 ∧ 1 ≤ day ∧ day ≤ daysOf year month then some text else none

/-- The text after a time, whose seconds may be left out. -/
def time? (text : List Char) : Option (List Char) := do
  let (hour, text) ← fixed? 2 text
  let (minute, text) ← fixed? 2 (← expect? [':'] text)
  if 23 < hour ∨ 59 < minute then none
  match text with
  | ':' :: text => do
    let (second, text) ← fixed? 2 text
    if 60 < second then none
    match text with
    | '.' :: fraction =>
      if (fraction.takeWhile isDigit).isEmpty then none else return fraction.dropWhile isDigit
    | text => return text
  | text => return text

def offset? (text : List Char) : Option (List Char) :=
  match text with
  | 'Z' :: rest => some rest
  | 'z' :: rest => some rest
  | '+' :: rest => hours rest
  | '-' :: rest => hours rest
  | rest => some rest
where
  hours (text : List Char) : Option (List Char) := do
    let (hour, text) ← fixed? 2 text
    let (minute, text) ← fixed? 2 (← expect? [':'] text)
    if 23 < hour ∨ 59 < minute then none else some text

/-- A date, a time, or both with perhaps an offset. -/
def isMoment (text : List Char) : Bool :=
  match date? text with
  | some [] => true
  | some rest => (do offset? (← time? (← expect? ['T', 't', ' '] rest))) = some []
  | none => time? text = some []

def Item.ofBare? (text : List Char) : Option Item :=
  if text = "true".toList then some (.bool true)
  else if text = "false".toList then some (.bool false)
  else match integer? text with
    | some value => some (.integer value)
    | none => match float? text with
      | some value => some (if value.isInf && !text.contains 'i' then .beyond else .float value)
      | none => if isMoment text then some .moment else none

end ApiStyle.Toml
