import ApiStyle.Decimal.Shortest

/-! Doubles written without an exponent, however long that gets. -/

namespace ApiStyle

namespace Scaled

/-- All digits of a decimal; a whole number gets one place. -/
def positional (value : Scaled) : List Char :=
  if 0 ≤ value.power then Nat.toDigits 10 (value.coefficient * tenTo value.power.toNat) ++ ['.', '0']
  else
    let places := (-value.power).toNat
    let digits := Nat.toDigits 10 value.coefficient
    let padded := List.replicate (places + 1 - digits.length) '0' ++ digits
    padded.take (padded.length - places) ++ '.' :: padded.drop (padded.length - places)

end Scaled

/-- The shortest digits of a double, written out. -/
def positionalText (value : Float) : String :=
  match Magnitude.ofBits? value.toBits with
  | none => if value.isNaN then "NaN" else if value < 0 then "-inf" else "inf"
  | some magnitude =>
    let digits := if magnitude.significand = 0 then ⟨0, 0⟩ else Shortest.ofMagnitude magnitude
    String.ofList ((if Magnitude.isNegative value.toBits then ['-'] else []) ++ digits.positional)

end ApiStyle
