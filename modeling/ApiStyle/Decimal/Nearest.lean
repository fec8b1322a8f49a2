import ApiStyle.Decimal.Shortest

/-! Decimals to doubles. JSON numbers are scaled in floating point from the first digits that fit into
sixty-four bits; the other formats round the exact decimal once. -/

namespace ApiStyle

namespace Scaled

/-- The double nearest to the decimal. Far out exponents are settled without computing the power. -/
def toFloat (value : Scaled) : Float :=
  let digits : Int := (Nat.toDigits 10 value.coefficient).length
  if value.coefficient = 0 then 0.0
  else if 400 < digits + value.power then 1.0 / 0.0
  else if digits + value.power < -400 then 0.0
  else if value.power < 0 then Float.ofScientific value.coefficient true value.power.natAbs
  else Float.ofScientific (value.coefficient * tenTo value.power.toNat) false 0

end Scaled

namespace Numeral

/-- What the coefficients of a word stay below. -/
def wordLimit : Nat := twoTo wordSize

/-- Reads digits while the coefficient fits into sixty-four bits; also the digits left over. -/
def absorb : Nat → List Digit → Nat × List Digit
  | coefficient, [] => (coefficient, [])
  | coefficient, digit :: digits =>
    if coefficient * 10 + digit.val < wordLimit then absorb (coefficient * 10 + digit.val) digits
    else (coefficient, digit :: digits)

/-- The leading digits as a word, with the power of ten that the other digits of the whole part stand for. -/
def leadingWord (numeral : Numeral) : Scaled :=
  let (whole, dropped) := absorb 0 (Digit.ofNat numeral.whole)
  let (coefficient, ignored) := absorb whole numeral.fraction
  let places : Int := numeral.fraction.length - ignored.length
  ⟨coefficient, dropped.length - places + numeral.exponent.getD 0⟩

/-- Multiplies or divides by the power of ten, in steps of `1e308`; overflow has no result. -/
def rescale : Nat → Float → Int → Option Float
  | 0, value, _ => some value
  | fuel + 1, value, power =>
    if power.natAbs ≤ 308 then
      let tens := Float.ofScientific 1 false power.natAbs
      if 0 ≤ power then
        let product := value * tens
        if product.isInf then none else some product
      else some (value / tens)
    else if value == 0.0 then some value
    else if 0 ≤ power then none
    else rescale fuel (value / 1e308) (power + 308)

/-- The double that a numeral stands for, unless it is out of range. -/
def toFloat? (numeral : Numeral) : Option Float :=
  let word := numeral.leadingWord
  (rescale 4 word.coefficient.toUInt64.toFloat word.power).map fun value =>
    if numeral.negative then -value else value

/-- The value a numeral is stored as: an integer of at most sixty-four bits as it stands, anything
else as the nearest double in its shortest form. -/
def canonical? (numeral : Numeral) : Option Numeral :=
  match numeral.integer? with
  | some value =>
    if fitsWord value then some numeral else numeral.toFloat?.bind ofFloat?
  | none => numeral.toFloat?.bind ofFloat?

end Numeral

end ApiStyle
