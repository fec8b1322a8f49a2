import ApiStyle.Decimal.Numeral
import ApiStyle.Decimal.Power

/-! The fewest decimal digits that read back as a given double. The double is taken apart into
`significand * 2 ^ power`; the decimals that round to it form an interval, whose ends belong to it
when the significand is even. The first grid of one, two, … seventeen digits with a neighbour of the
value inside the interval wins, and of two neighbours the nearer one. All arithmetic is exact. -/

namespace ApiStyle

/-- A finite double without its sign. -/
structure Magnitude where
  significand : Nat
  power : Int
deriving DecidableEq, Repr

namespace Magnitude

/-- Splits the bits of a double; infinities and not-a-number have no magnitude. -/
def ofBits? (bits : UInt64) : Option Magnitude :=
  let mantissa := bits.toNat % twoTo 52
  let exponent := bits.toNat / twoTo 52 % twoTo 11
  if exponent = 2047 then none
  else if exponent = 0 then some ⟨mantissa, -1074⟩
  else some ⟨twoTo 52 + mantissa, Int.ofNat exponent - 1075⟩

/-- Whether the bits of a double say that it is negative. -/
def isNegative (bits : UInt64) : Bool := twoTo 63 ≤ bits.toNat

/-- Below a power of two the doubles lie twice as close, except at the smallest exponent. -/
def narrowBelow (value : Magnitude) : Bool := value.significand == twoTo 52 && value.power != -1074

end Magnitude

/-- A decimal `coefficient * 10 ^ power`. -/
structure Scaled where
  coefficient : Nat
  power : Int
deriving DecidableEq, Repr

namespace Scaled

/-- Moves trailing zeros of the coefficient into the power. -/
def trim : Nat → Scaled → Scaled
  | 0, value => value
  | fuel + 1, value =>
    if value.coefficient ≠ 0 ∧ value.coefficient % 10 = 0 then
      trim fuel ⟨value.coefficient / 10, value.power + 1⟩
    else value

end Scaled

namespace Shortest

/-- A positive rational over four times the value's own denominator, so that quarter gaps are whole. -/
structure Target where
  /-- four times the value -/
  centre : Nat
  below : Nat
  above : Nat
  /-- four times the denominator -/
  unit : Nat
  closed : Bool

def target (value : Magnitude) : Target :=
  let scale := twoTo value.power.toNat
  let unit := twoTo (-value.power).toNat
  { centre := 4 * value.significand * scale
    below := (if value.narrowBelow then 1 else 2) * scale
    above := 2 * scale
    unit := 4 * unit
    closed := value.significand % 2 == 0 }

/-- The power of ten of the leading digit of `centre / unit`, searched upwards then downwards. -/
def leading (goal : Target) : Int :=
  if goal.unit ≤ goal.centre then ((Nat.toDigits 10 (goal.centre / goal.unit)).length : Int) - 1
  else
    let rec down : Nat → Nat → Int → Int
      | 0, _, power => power
      | fuel + 1, centre, power => if goal.unit ≤ centre then power else down fuel (10 * centre) (power - 1)
    down 400 (10 * goal.centre) (-1)

/-- Whether `coefficient * 10 ^ power` rounds to the value, and how far off it is. -/
def distance? (goal : Target) (coefficient : Nat) (power : Int) : Option Nat :=
  let tens := tenTo (-power).toNat
  let point := coefficient * tenTo power.toNat * goal.unit
  let centre := goal.centre * tens
  let off := if point < centre then centre - point else point - centre
  let room := (if point < centre then goal.below else goal.above) * tens
  if off < room ∨ (goal.closed ∧ off = room) then some off else none

/-- The better neighbour of the value on the grid with the given number of digits. -/
def onGrid? (goal : Target) (power : Int) : Option Scaled :=
  let low := goal.centre * tenTo (-power).toNat / (goal.unit * tenTo power.toNat)
  match distance? goal low power, distance? goal (low + 1) power with
  | none, none => none
  | some _, none => some ⟨low, power⟩
  | none, some _ => some ⟨low + 1, power⟩
  | some lower, some upper =>
    if lower < upper ∨ (lower = upper ∧ low % 2 = 0) then some ⟨low, power⟩ else some ⟨low + 1, power⟩

/-- The fewest digits for a positive magnitude. Seventeen always suffice, so the list is never
searched in vain. -/
def ofMagnitude (value : Magnitude) : Scaled :=
  let goal := target value
  let lead := leading goal
  (((List.range 17).findSome? fun (count : Nat) => onGrid? goal (lead - count)).getD ⟨0, 0⟩).trim 20

end Shortest

namespace Numeral

/-- Positional from `1e-5` up to `1e16`, with an exponent outside; a fraction is always written. -/
def ofScaled (negative : Bool) (value : Scaled) : Numeral :=
  let digits := Digit.ofNat value.coefficient
  let point : Int := digits.length + value.power
  if 0 ≤ value.power ∧ point ≤ 16 then ⟨negative, value.coefficient * tenTo value.power.toNat, [.zero], none⟩
  else if 0 < point ∧ point ≤ 16 then
    ⟨negative, Digit.toNat (digits.take point.toNat), digits.drop point.toNat, none⟩
  else if -5 < point ∧ point ≤ 0 then ⟨negative, 0, List.replicate (-point).toNat .zero ++ digits, none⟩
  else ⟨negative, Digit.toNat (digits.take 1), digits.drop 1, some (point - 1)⟩

/-- The numeral a double is written as; infinities and not-a-number have none. -/
def ofFloat? (value : Float) : Option Numeral :=
  let bits := value.toBits
  (Magnitude.ofBits? bits).map fun magnitude =>
    let negative := Magnitude.isNegative bits
    if magnitude.significand = 0 then ⟨negative, 0, [.zero], none⟩
    else ofScaled negative (Shortest.ofMagnitude magnitude)

end Numeral

end ApiStyle
