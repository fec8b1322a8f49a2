import ApiStyle.Json.Draft
import ApiStyle.Proofs.Results

/-! A numeral that is written can be read back, whatever its parts, as long as nothing follows that would go on
with it. -/

namespace ApiStyle

namespace Digit

theorem ofChar?_char : ∀ digit : Digit, ofChar? digit.char = some digit := by decide

private theorem char_ne_minus : ∀ digit : Digit, digit.char ≠ '-' := by decide

theorem ofNat_of_lt {value : Nat} (small : value < 10) : ofNat value = [Fin.ofNat 10 value] := by
  rw [ofNat, Nat.toDigits_of_lt_base small, List.map_singleton]
  exact congrArg (fun code => [Fin.ofNat 10 code]) (Nat.toNat_digitChar_sub_48_of_lt_ten small)

theorem ofNat_append {value last : Nat} (positive : 0 < value) (small : last < 10) :
    ofNat (10 * value + last) = ofNat value ++ ofNat last := by
  rw [ofNat, ← Nat.toDigits_append_toDigits (by decide) positive small, List.map_append]
  rfl

theorem ofNat_ne_nil (value : Nat) : ofNat value ≠ [] := by
  simp [ofNat]

theorem map_char_ofNat (value : Nat) : (ofNat value).map char = Nat.toDigits 10 value := by
  induction value using Nat.base_induction 10 (by decide) with
  | single value small =>
    rw [ofNat_of_lt small, Nat.toDigits_of_lt_base small, List.map_singleton, char, Fin.val_ofNat, Nat.mod_eq_of_lt small]
  | digit value last small positive ih =>
    rw [ofNat_append positive small, ← Nat.toDigits_append_toDigits (by decide) positive small, List.map_append, ih,
      ofNat_of_lt small, Nat.toDigits_of_lt_base small, List.map_singleton, char, Fin.val_ofNat, Nat.mod_eq_of_lt small]

theorem toNat_ofNat (value : Nat) : toNat (ofNat value) = value := by
  induction value using Nat.base_induction 10 (by decide) with
  | single value small => simp [ofNat_of_lt small, toNat, Nat.mod_eq_of_lt small]
  | digit value last small positive ih =>
    rw [toNat] at ih
    rw [ofNat_append positive small, ofNat_of_lt small, toNat, List.foldl_append, ih]
    simp [Nat.mod_eq_of_lt small]

theorem head?_ofNat {value : Nat} (positive : 0 < value) : (ofNat value).head? ≠ some zero := by
  induction value using Nat.base_induction 10 (by decide) with
  | single value small =>
    rw [ofNat_of_lt small]
    simp [zero, Fin.ext_iff, Nat.mod_eq_of_lt small]
    omega
  | digit value last small larger ih =>
    have notZero := ih larger
    rw [ofNat_append larger small]
    cases written : ofNat value with
    | nil => exact absurd written (ofNat_ne_nil value)
    | cons first others => rwa [written] at notZero

end Digit

namespace Json.Draft

/-- Nothing that would go on with a run of digits. -/
def EndsDigits (rest : List Char) : Prop := ∀ character ∈ rest.head?, Digit.ofChar? character = none

/-- Nothing that would go on with a numeral. -/
structure EndsNumeral (rest : List Char) : Prop where
  digits : EndsDigits rest
  fraction : rest.head? ≠ some '.'
  exponent : rest.head? ≠ some 'e' ∧ rest.head? ≠ some 'E'

theorem readDigits_append (digits : List Digit) {rest : List Char} (ends : EndsDigits rest) :
    readDigits (digits.map Digit.char ++ rest) = (digits, rest) := by
  induction digits with
  | nil =>
    cases rest with
    | nil => rfl
    | cons character rest => simp [readDigits, ends character rfl]
  | cons digit digits ih => simp [readDigits, Digit.ofChar?_char, ih]

private theorem readWhole_append (whole : Nat) {rest : List Char} (ends : EndsDigits rest) :
    readWhole (Nat.toDigits 10 whole ++ rest) = .ok (whole, rest) := by
  rcases Nat.eq_zero_or_pos whole with rfl | positive
  · have none : readDigits rest = ([], rest) := readDigits_append [] ends
    simp [readWhole, Digit.ofChar?, none, Digit.zero]
  · have notZero := Digit.head?_ofNat positive
    have value := Digit.toNat_ofNat whole
    rw [← Digit.map_char_ofNat]
    cases written : Digit.ofNat whole with
    | nil => exact absurd written (Digit.ofNat_ne_nil whole)
    | cons digit digits =>
      rw [written] at notZero value
      have notZero : digit ≠ Digit.zero := fun same => notZero (congrArg some same)
      simp [readWhole, Digit.ofChar?_char, readDigits_append digits ends, notZero, value]

private theorem readFraction_append (fraction : List Digit) {rest : List Char} (ends : EndsDigits rest)
    (noPoint : fraction = [] → rest.head? ≠ some '.') :
    readFraction ((if fraction.isEmpty then [] else '.' :: fraction.map Digit.char) ++ rest) = .ok (fraction, rest) := by
  cases fraction with
  | nil =>
    have noPoint := noPoint rfl
    cases rest with
    | nil => rfl
    | cons character rest =>
      have differs : character ≠ '.' := fun same => noPoint (congrArg some same)
      simp [readFraction, differs]
  | cons digit digits =>
    have read := readDigits_append (digit :: digits) ends
    rw [List.map_cons, List.cons_append] at read
    simp [readFraction, read]

private theorem readPower_append (negative : Bool) (power : Nat) {rest : List Char} (ends : EndsDigits rest) :
    readPower negative (Nat.toDigits 10 power ++ rest) =
      .ok (some (if negative then -(power : Int) else power), rest) := by
  have value := Digit.toNat_ofNat power
  rw [← Digit.map_char_ofNat]
  cases written : Digit.ofNat power with
  | nil => exact absurd written (Digit.ofNat_ne_nil power)
  | cons digit digits =>
    rw [written] at value
    simp [readPower, Digit.ofChar?_char, readDigits_append digits ends, value]

private theorem readExponent_append (exponent : Option Int) {rest : List Char} (ends : EndsNumeral rest) :
    readExponent ((exponent.map Numeral.exponentText).getD [] ++ rest) = .ok (exponent, rest) := by
  cases exponent with
  | none =>
    cases rest with
    | nil => rfl
    | cons character rest =>
      have small : character ≠ 'e' := fun same => ends.exponent.1 (congrArg some same)
      have large : character ≠ 'E' := fun same => ends.exponent.2 (congrArg some same)
      simp [readExponent, small, large]
  | some power =>
    by_cases negative : power < 0
    · have same : -(power.natAbs : Int) = power := by omega
      have read := readPower_append true power.natAbs ends.digits
      rw [if_pos rfl, same] at read
      simp [Numeral.exponentText, readExponent, negative, read]
    · have same : (power.natAbs : Int) = power := by omega
      have read := readPower_append false power.natAbs ends.digits
      rw [if_neg Bool.false_ne_true, same] at read
      simp [Numeral.exponentText, readExponent, negative, read]

private theorem endsDigits_fraction (fraction : List Digit) {rest : List Char} (ends : EndsDigits rest) :
    EndsDigits ((if fraction.isEmpty then [] else '.' :: fraction.map Digit.char) ++ rest) := by
  cases fraction with
  | nil => exact ends
  | cons digit digits =>
    rintro character ⟨⟩
    rfl

private theorem endsDigits_exponent (exponent : Option Int) {rest : List Char} (ends : EndsDigits rest) :
    EndsDigits ((exponent.map Numeral.exponentText).getD [] ++ rest) := by
  cases exponent with
  | none => exact ends
  | some power =>
    rintro character ⟨⟩
    rfl

private theorem exponent_has_no_point (exponent : Option Int) {rest : List Char} (ends : EndsNumeral rest) :
    ((exponent.map Numeral.exponentText).getD [] ++ rest).head? ≠ some '.' := by
  cases exponent with
  | none => exact ends.fraction
  | some power => simp [Numeral.exponentText]

theorem toDigits_eq_cons (value : Nat) : ∃ (digit : Digit) (others : List Char),
    Nat.toDigits 10 value = digit.char :: others := by
  rw [← Digit.map_char_ofNat]
  cases written : Digit.ofNat value with
  | nil => exact absurd written (Digit.ofNat_ne_nil value)
  | cons digit digits => exact ⟨digit, digits.map Digit.char, rfl⟩

theorem readNumeral_append (numeral : Numeral) {rest : List Char} (ends : EndsNumeral rest) :
    readNumeral (numeral.text ++ rest) = .ok (numeral, rest) := by
  obtain ⟨negative, whole, fraction, exponent⟩ := numeral
  have wholeRead := readWhole_append whole (endsDigits_fraction fraction
    (endsDigits_exponent exponent ends.digits))
  have fractionRead := readFraction_append fraction (endsDigits_exponent exponent ends.digits)
    fun _ => exponent_has_no_point exponent ends
  have exponentRead := readExponent_append exponent ends
  cases negative with
  | true =>
    simp only [Numeral.text, if_true, List.append_assoc, List.cons_append, List.nil_append]
    refine bind_eq_ok.mpr ⟨(whole, _), wholeRead, ?_⟩
    refine bind_eq_ok.mpr ⟨(fraction, _), fractionRead, ?_⟩
    exact bind_eq_ok.mpr ⟨(exponent, _), exponentRead, rfl⟩
  | false =>
    obtain ⟨digit, others, written⟩ := toDigits_eq_cons whole
    have unsigned : digit.char ≠ '-' := Digit.char_ne_minus digit
    simp only [Numeral.text, Bool.false_eq_true, if_false, List.append_assoc, List.nil_append]
    rw [written] at wholeRead ⊢
    unfold readNumeral
    split
    next sign text split =>
      split at split
      next same => exact absurd (List.cons.inj same).1 unsigned
      next =>
        obtain ⟨rfl, rfl⟩ := Prod.mk.inj split
        refine bind_eq_ok.mpr ⟨(whole, _), wholeRead, ?_⟩
        refine bind_eq_ok.mpr ⟨(fraction, _), fractionRead, ?_⟩
        exact bind_eq_ok.mpr ⟨(exponent, _), exponentRead, rfl⟩

end Json.Draft

end ApiStyle
