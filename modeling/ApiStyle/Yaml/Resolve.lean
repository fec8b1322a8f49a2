import ApiStyle.Decimal.Nearest

/-! What a plain scalar without a tag stands for: null, a truth value, an integer, a float, or else its text. -/

namespace ApiStyle.Yaml

inductive Value where
  | null
  | bool (value : Bool)
  | integer (value : Int)
  | float (value : Float)
  | text

namespace Value

def isNull (text : String) : Bool := ["null", "Null", "NULL", "~"].contains text

def bool? (text : String) : Option Bool :=
  if ["true", "True", "TRUE"].contains text then some true
  else if ["false", "False", "FALSE"].contains text then some false
  else none

def digit? (radix : Nat) (character : Char) : Option Nat :=
  let code := character.toNat
  let value := if 48 ≤ code ∧ code ≤ 57 then code - 48
    else if 97 ≤ code ∧ code ≤ 122 then code - 87
    else if 65 ≤ code ∧ code ≤ 90 then code - 55
    else radix
  if value < radix then some value else none

/-- The number that digits without a sign write; there is at least one. -/
def natural? (radix : Nat) (digits : List Char) : Option Nat :=
  if digits.isEmpty then none
  else digits.foldlM (fun value digit => (digit? radix digit).map (value * radix + ·)) 0

/-- Digits after a superfluous zero are no number. -/
def isPadded (text : List Char) : Bool :=
  match text with
  | '0' :: second :: rest => (second :: rest).all fun digit => (digit? 10 digit).isSome
  | _ => false

/-- A number with the radix that it announces. -/
def magnitude? : List Char → Option Nat
  | '0' :: 'x' :: digits => natural? 16 digits
  | '0' :: 'o' :: digits => natural? 8 digits
  | '0' :: 'b' :: digits => natural? 2 digits
  | digits => if isPadded digits then none else natural? 10 digits

/-- Integers fit into 128 bits. -/
def integer? (text : String) : Option Int :=
  match text.toList with
  | '-' :: digits => ((magnitude? digits).map fun value => -(value : Int)).filter (fitsSigned 128)
  | '+' :: digits => ((magnitude? digits).map Int.ofNat).filter (fitsUnsigned 128)
  | digits => ((magnitude? digits).map Int.ofNat).filter (fitsUnsigned 128)

/-- The sign of an exponent and its digits. -/
def exponent? : List Char → Option Int
  | '-' :: digits => (natural? 10 digits).map fun value => -(value : Int)
  | '+' :: digits => (natural? 10 digits).map Int.ofNat
  | digits => (natural? 10 digits).map Int.ofNat

/-- Digits with at most one point among them, then perhaps an exponent. -/
def scaled? (text : List Char) : Option Scaled :=
  let isDigit (character : Char) := (digit? 10 character).isSome
  let whole := text.takeWhile isDigit
  let rest := text.dropWhile isDigit
  let (fraction, rest) := match rest with
    | '.' :: rest => (rest.takeWhile isDigit, rest.dropWhile isDigit)
    | rest => ([], rest)
  (natural? 10 (whole ++ fraction)).bind fun coefficient =>
    match rest with
    | [] => some ⟨coefficient, -fraction.length⟩
    | mark :: digits =>
      if mark = 'e' ∨ mark = 'E' then
        (exponent? digits).map fun power => ⟨coefficient, power - fraction.length⟩
      else none

/-- Floats are finite unless they are named. -/
def float? (text : String) : Option Float :=
  let (negative, signed, digits) := match text.toList with
    | '-' :: digits => (true, true, digits)
    | '+' :: digits => (false, true, digits)
    | digits => (false, false, digits)
  if [".inf", ".Inf", ".INF"].contains (String.ofList digits) then
    some (if negative then -1.0 / 0.0 else 1.0 / 0.0)
  else if !signed ∧ [".nan", ".NaN", ".NAN"].contains (String.ofList digits) then some (0.0 / 0.0)
  else (scaled? digits).bind fun value =>
    let value := value.toFloat
    if value.isInf then none else some (if negative then -value else value)

def ofPlain (text : String) : Value :=
  if text.isEmpty ∨ isNull text then .null
  else match bool? text, integer? text with
    | some value, _ => .bool value
    | none, some value => .integer value
    | none, none =>
      let digits := text.toList
      let unsigned := match digits with
        | '-' :: digits => digits
        | '+' :: digits => digits
        | digits => digits
      if isPadded unsigned then .text
      else match float? text with
        | some value => .float value
        | none => .text

end Value

end ApiStyle.Yaml
