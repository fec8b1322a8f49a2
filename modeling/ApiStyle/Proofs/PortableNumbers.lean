import ApiStyle.Proofs.JsonText
import ApiStyle.Proofs.StoredTrees
import ApiStyle.Yaml.Decode

/-! Numbers of JSON as plain scalars of YAML. Integers of a word are the same in both formats. That may fail for other
numbers: YAML keeps integers of more bits and drops the sign of a zero, and it rounds decimal fractions to the nearest
double, which JSON does not always find. -/

namespace ApiStyle

/-- A numeral that YAML takes for the number that JSON stores. -/
def Numeral.IsPortable (numeral : Numeral) : Prop :=
  ∀ stored, numeral.canonical? = some stored → ∀ position,
    Yaml.Node.scalarJson position (String.ofList numeral.text) (Yaml.Value.ofPlain (String.ofList numeral.text)) =
      pure (.number stored)

namespace Yaml.Value

private theorem digit?_char : ∀ digit : Digit, digit? 10 digit.char = some digit.val := by decide

theorem foldlM_digits (digits : List Digit) (value : Nat) :
    (digits.map Digit.char).foldlM (fun value digit => (digit? 10 digit).map (value * 10 + ·)) value =
      some (digits.foldl (fun value digit => 10 * value + digit.val) value) := by
  induction digits generalizing value with
  | nil => rfl
  | cons digit digits ih =>
    rw [List.map_cons, List.foldlM_cons, digit?_char, List.foldl_cons, Nat.mul_comm 10]
    exact ih _

theorem toDigits_cases (value : Nat) : Nat.toDigits 10 value = ['0'] ∨
    ∃ digit rest, Nat.toDigits 10 value = Digit.char digit :: rest ∧ digit.char ≠ '0' := by
  rcases Nat.eq_zero_or_pos value with rfl | positive
  · exact Or.inl rfl
  · have nonzero : ∀ digit : Digit, digit ≠ .zero → digit.char ≠ '0' := by decide
    have first := Digit.head?_ofNat positive
    rw [← Digit.map_char_ofNat]
    cases written : Digit.ofNat value with
    | nil => exact absurd written (Digit.ofNat_ne_nil value)
    | cons digit digits =>
      rw [written] at first
      exact Or.inr ⟨digit, digits.map Digit.char, rfl, nonzero digit fun same => first (congrArg some same)⟩

private theorem natural?_toDigits (value : Nat) : natural? 10 (Nat.toDigits 10 value) = some value := by
  have some : (Nat.toDigits 10 value).isEmpty = false := by
    rcases toDigits_cases value with same | ⟨digit, rest, same, _⟩ <;> rw [same] <;> rfl
  rw [natural?, if_neg (Bool.eq_false_iff.mp some), ← Digit.map_char_ofNat, foldlM_digits]
  exact congrArg Option.some (Digit.toNat_ofNat value)

theorem magnitude?_toDigits (value : Nat) : magnitude? (Nat.toDigits 10 value) = some value := by
  have read := natural?_toDigits value
  rcases toDigits_cases value with same | ⟨digit, rest, same, nonzero⟩
  · rw [same] at read ⊢
    exact read
  · rw [same] at read ⊢
    have unpadded : isPadded (digit.char :: rest) = false := by
      unfold isPadded
      split
      next given => exact absurd (List.cons.inj given).1 nonzero
      next => rfl
    unfold magnitude?
    split
    iterate 3
      next given => exact absurd (List.cons.inj given).1 nonzero
    rw [unpadded, if_neg Bool.false_ne_true, read]

theorem fits_of_word {value : Int} (fits : fitsWord value = true) :
    (0 ≤ value → fitsUnsigned 128 value = true) ∧ fitsSigned 128 value = true := by
  have small : (twoTo (wordSize - 1) : Int) ≤ (twoTo wordSize : Int) := by decide
  have wide : (twoTo wordSize : Int) ≤ (twoTo (128 - 1) : Int) := by decide
  have wider : (twoTo (128 - 1) : Int) ≤ (twoTo 128 : Int) := by decide
  have zero : (0 : Int) ≤ (twoTo (wordSize - 1) : Int) := by decide
  simp only [fitsWord, fitsSigned, fitsUnsigned, Bool.or_eq_true, Bool.and_eq_true, decide_eq_true_eq] at fits ⊢
  generalize (twoTo (wordSize - 1) : Int) = one at *
  generalize (twoTo wordSize : Int) = two at *
  generalize (twoTo (128 - 1) : Int) = three at *
  generalize (twoTo 128 : Int) = four at *
  omega

private theorem integer?_toDigits (value : Nat) :
    integer? (String.ofList (Nat.toDigits 10 value)) = (some (value : Int)).filter (fitsUnsigned 128) := by
  have unsigned : ∀ digit : Digit, digit.char ≠ '-' ∧ digit.char ≠ '+' := by decide
  obtain ⟨digit, rest, digits⟩ := Json.Draft.toDigits_eq_cons value
  rw [integer?, String.toList_ofList]
  split
  next given => exact absurd (List.cons.inj (digits.symm.trans given)).1 (unsigned digit).1
  next given => exact absurd (List.cons.inj (digits.symm.trans given)).1 (unsigned digit).2
  next => rw [magnitude?_toDigits, Option.map_some, Int.ofNat_eq_natCast]

private theorem integer?_negative (value : Nat) :
    integer? (String.ofList ('-' :: Nat.toDigits 10 value)) = (some (-(value : Int))).filter (fitsSigned 128) := by
  rw [integer?, String.toList_ofList]
  simp only [magnitude?_toDigits]
  rfl

theorem integer?_text {numeral : Numeral} {value : Int} (integer : numeral.integer? = some value)
    (fits : fitsWord value = true) : integer? (String.ofList numeral.text) = some value := by
  obtain ⟨unsigned, signed⟩ := fits_of_word fits
  unfold Numeral.integer? at integer
  split at integer
  next whole =>
    obtain rfl := Option.some.inj integer
    rw [Numeral.text]
    simp only [Bool.false_eq_true, if_false, List.isEmpty_nil, if_true, Option.map_none, Option.getD_none,
      List.nil_append, List.append_nil]
    rw [integer?_toDigits, Option.filter_some, if_pos (unsigned (Int.natCast_nonneg _))]
  next whole =>
    obtain rfl := Option.some.inj integer
    rw [Numeral.text]
    simp only [List.isEmpty_nil, if_true, Option.map_none, Option.getD_none, List.append_nil, List.singleton_append]
    rw [integer?_negative, Option.filter_some, if_pos signed]
  next => cases integer

theorem text_no_word (numeral : Numeral) : (String.ofList numeral.text).isEmpty = false ∧
    isNull (String.ofList numeral.text) = false ∧ bool? (String.ofList numeral.text) = none := by
  have strange : ∀ digit : Digit, (digit.char ≠ 'n' ∧ digit.char ≠ 'N' ∧ digit.char ≠ '~') ∧
      (digit.char ≠ 't' ∧ digit.char ≠ 'T') ∧ digit.char ≠ 'f' ∧ digit.char ≠ 'F' := by decide
  obtain ⟨first, rest, written, begins⟩ := Json.Draft.text_eq_cons numeral
  obtain ⟨⟨small, large, tilde⟩, ⟨smallTrue, largeTrue⟩, smallFalse, largeFalse⟩ :
      (first ≠ 'n' ∧ first ≠ 'N' ∧ first ≠ '~') ∧ (first ≠ 't' ∧ first ≠ 'T') ∧ first ≠ 'f' ∧ first ≠ 'F' := by
    rcases begins with rfl | ⟨digit, rfl⟩
    · decide
    · exact strange digit
  rw [written]
  refine ⟨?_, ?_, ?_⟩
  · simp
  · simp [isNull, String.ext_iff, small, large, tilde]
  · simp [bool?, String.ext_iff, smallTrue, largeTrue, smallFalse, largeFalse]

private theorem ofPlain_text {numeral : Numeral} {value : Int} (integer : numeral.integer? = some value)
    (fits : fitsWord value = true) : ofPlain (String.ofList numeral.text) = .integer value := by
  obtain ⟨some, noNull, noBool⟩ := text_no_word numeral
  rw [ofPlain, some, noNull, noBool, integer?_text integer fits]
  rfl

end Yaml.Value

theorem Numeral.IsWord.isPortable {numeral : Numeral} (word : numeral.IsWord) : numeral.IsPortable := by
  intro stored canonical position
  obtain rfl := Option.some.inj (word.canonical.symm.trans canonical)
  obtain ⟨value, integer, fits⟩ := word
  have same : numeral = .ofInt value := by
    unfold integer? at integer
    split at integer
    next =>
      obtain rfl := Option.some.inj integer
      simp [ofInt]
    next =>
      obtain rfl := Option.some.inj integer
      simp [ofInt]
      omega
    next => cases integer
  rw [Yaml.Value.ofPlain_text integer fits, Yaml.Node.scalarJson, if_pos fits, ← same]

end ApiStyle
