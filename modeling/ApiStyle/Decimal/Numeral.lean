/-! Decimal numerals as JSON writes them: sign, whole part, fraction and exponent.
The whole part is a number because no numeral starts with a superfluous zero; the fraction
keeps its digits, since `1.0` and `1.00` are different texts. -/

namespace ApiStyle

abbrev Digit := Fin 10

namespace Digit

def zero : Digit := ⟨0, Nat.zero_lt_succ 9⟩

def char (digit : Digit) : Char := Nat.digitChar digit.val

def ofChar? (character : Char) : Option Digit :=
  if '0' ≤ character ∧ character ≤ '9' then some (Fin.ofNat 10 (character.toNat - '0'.toNat)) else none

/-- The digits of a natural number, most significant first. -/
def ofNat (value : Nat) : List Digit :=
  (Nat.toDigits 10 value).map fun character => Fin.ofNat 10 (character.toNat - '0'.toNat)

def toNat (digits : List Digit) : Nat := digits.foldl (fun value digit => 10 * value + digit.val) 0

end Digit

structure Numeral where
  negative : Bool
  whole : Nat
  fraction : List Digit
  exponent : Option Int
deriving DecidableEq, Repr

namespace Numeral

def ofNat (value : Nat) : Numeral := ⟨false, value, [], none⟩

def ofInt (value : Int) : Numeral := ⟨decide (value < 0), value.natAbs, [], none⟩

/-- A numeral without fraction and exponent; `-0` is not counted, because its sign would be lost. -/
def integer? (numeral : Numeral) : Option Int :=
  match numeral with
  | ⟨false, whole, [], none⟩ => some whole
  | ⟨true, whole + 1, [], none⟩ => some (-(whole + 1 : Nat))
  | _ => none

def exponentText (exponent : Int) : List Char :=
  'e' :: (if exponent < 0 then '-' else '+') :: Nat.toDigits 10 exponent.natAbs

def text (numeral : Numeral) : List Char :=
  (if numeral.negative then ['-'] else []) ++ Nat.toDigits 10 numeral.whole
    ++ (if numeral.fraction.isEmpty then [] else '.' :: numeral.fraction.map Digit.char)
    ++ (numeral.exponent.map exponentText).getD []

end Numeral

end ApiStyle
