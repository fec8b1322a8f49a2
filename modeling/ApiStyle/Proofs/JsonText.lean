import ApiStyle.Json.Text
import ApiStyle.Proofs.NumeralText
import Mathlib.Data.List.Forall2
import Mathlib.Tactic.IntervalCases

/-! Reading undoes writing. A text that spells a tree is read as the draft of that tree, to its last character and
whatever blanks stand between its parts; the compact form and the one with a line for each entry are two such texts. -/

namespace ApiStyle.Json

namespace Draft

/-- A character with a way of writing it between quotation marks. A pair of escapes that stands for one character is
not among them. -/
inductive Writes : Char → List Char → Prop
  | itself {character} : 0x20 ≤ character.toNat → character ≠ '"' → character ≠ '\\' → Writes character [character]
  | letter {character letter} : simpleEscape? letter = some character → Writes character ['\\', letter]
  | code {code digits} : readHex digits = .ok (code, []) → code.isValidChar →
      Writes (Char.ofNat code) ('\\' :: 'u' :: digits)

theorem readHex_append {code : Nat} {digits : List Char} (read : readHex digits = .ok (code, [])) (text : List Char) :
    readHex (digits ++ text) = .ok (code, text) := by
  unfold readHex at read
  split at read
  next =>
    split at read
    next one two three four =>
      obtain ⟨rfl, rfl⟩ := Prod.mk.inj (Except.ok.inj read)
      simp only [List.cons_append, List.nil_append, readHex, one, two, three, four]
    next => cases read
  next => cases read

private theorem readCode_append {code : Nat} {digits : List Char} (read : readHex digits = .ok (code, []))
    (valid : code.isValidChar)
    (text : List Char) : readCode (digits ++ text) = .ok (.ok (Char.ofNat code), text) := by
  have notLow : isLowSurrogate code = false := by
    rcases valid with low | high <;> simp [isLowSurrogate] <;> omega
  have notHigh : isHighSurrogate code = false := by
    rcases valid with low | high <;> simp [isHighSurrogate] <;> omega
  unfold readCode
  rw [readHex_append read]
  change (if isLowSurrogate code then _ else _) = _
  simp [notLow, notHigh]

theorem readText_writes (fuel : Nat) (found : List Char) {character : Char} {piece : List Char}
    (writes : Writes character piece) (text : List Char) :
    readText (fuel + 1) (.ok found) (piece ++ text) = readText fuel (.ok (character :: found)) text := by
  cases writes with
  | itself visible noQuote noBackslash =>
    simp only [List.singleton_append, readText, if_neg noQuote, if_neg noBackslash, if_neg (Nat.not_lt.mpr visible)]
    rfl
  | letter decoded =>
    unfold simpleEscape? at decoded
    split at decoded
    all_goals cases decoded
    all_goals rfl
  | @code _ digits read valid =>
    have code := readCode_append read valid text
    change (readCode (digits ++ text) >>= _) = _
    rw [code]
    rfl

private theorem Writes.length {character : Char} {piece : List Char} (writes : Writes character piece) :
    0 < piece.length := by
  cases writes <;> exact Nat.succ_pos _

theorem length_le_flatten {text : List Char} {pieces : List (List Char)} (writes : List.Forall₂ Writes text pieces) :
    text.length ≤ pieces.flatten.length := by
  induction writes with
  | nil => exact Nat.le_refl 0
  | cons first _ ih =>
    have := first.length
    rw [List.flatten_cons, List.length_append, List.length_cons]
    omega

private theorem readText_flatten {fuel : Nat} (found : List Char) {text : List Char} {pieces : List (List Char)}
    (writes : List.Forall₂ Writes text pieces) (enough : text.length < fuel) (rest : List Char) :
    readText fuel (.ok found) (pieces.flatten ++ '"' :: rest) = .ok (.ok (found.reverse ++ text), rest) := by
  induction writes generalizing fuel found with
  | nil =>
    obtain ⟨fuel, rfl⟩ := Nat.exists_eq_add_one_of_ne_zero (Nat.ne_of_gt enough)
    rw [List.append_nil]
    rfl
  | cons first _ ih =>
    obtain ⟨fuel, rfl⟩ := Nat.exists_eq_add_one_of_ne_zero (Nat.ne_of_gt (Nat.zero_lt_of_lt enough))
    rw [List.flatten_cons, List.append_assoc, readText_writes _ _ first, ih _ (Nat.lt_of_succ_lt_succ enough)]
    simp

theorem readString_flatten (fuel : Nat) {text : String} {pieces : List (List Char)}
    (writes : List.Forall₂ Writes text.toList pieces) (enough : text.toList.length < fuel) (rest : List Char) :
    readString fuel (pieces.flatten ++ '"' :: rest) = .ok (.ok text, rest) := by
  unfold readString
  rw [readText_flatten [] writes enough rest]
  change Except.ok (Except.ok (String.ofList ([] ++ text.toList)), rest) = _
  rw [List.nil_append, String.ofList_toList]

private theorem hexValue?_hexDigit : ∀ value < 16, hexValue? (hexDigit value) = some value := by decide

private theorem writes_escaped (character : Char) : Writes character (escaped character) := by
  unfold escaped
  split
  case h_8 noQuote noBackslash _ _ _ _ _ =>
    split
    next control =>
      have high := hexValue?_hexDigit (character.toNat / 16) (by omega)
      have low := hexValue?_hexDigit (character.toNat % 16) (by omega)
      have zero : hexValue? '0' = some 0 := rfl
      have read : readHex ['0', '0', hexDigit (character.toNat / 16), hexDigit (character.toNat % 16)] =
          .ok (character.toNat, []) := by
        simp only [readHex, zero, high, low]
        congr 2
        omega
      have written := Writes.code read (Or.inl (by omega))
      rwa [Char.ofNat_toNat] at written
    next plain => exact .itself (Nat.le_of_not_lt plain) noQuote noBackslash
  all_goals exact .letter rfl

private theorem readValue_digit (fuel : Nat) (digit : Digit) (text : List Char) :
    readValue (fuel + 1) (digit.char :: text) = ofStep .number (readNumeral (digit.char :: text)) := by
  obtain ⟨value, small⟩ := digit
  interval_cases value <;> rfl

theorem endsNumeral_nil : EndsNumeral [] := ⟨by rintro _ ⟨⟩, by simp, by simp⟩

/-- A character that a value can begin with. -/
def Begins (first : Char) : Prop := isBlank first = false ∧ first ≠ ']'

private theorem begins_char : ∀ digit : Digit, Begins digit.char := by
  unfold Begins
  decide

theorem text_eq_cons (numeral : Numeral) : ∃ first rest, numeral.text = first :: rest ∧
    (first = '-' ∨ ∃ digit : Digit, first = digit.char) := by
  obtain ⟨negative, whole, fraction, exponent⟩ := numeral
  obtain ⟨digit, others, written⟩ := toDigits_eq_cons whole
  cases negative with
  | true => exact ⟨_, _, rfl, Or.inl rfl⟩
  | false =>
    refine ⟨digit.char, ?_, ?_, Or.inr ⟨digit, rfl⟩⟩
    rotate_left
    · simp only [Numeral.text, written]
      rfl

private theorem readValue_numeral (fuel : Nat) (numeral : Numeral) {rest : List Char} (ends : EndsNumeral rest) :
    readValue (fuel + 1) (numeral.text ++ rest) = (.number numeral, some rest) := by
  have read := readNumeral_append numeral ends
  obtain ⟨first, others, written, begins⟩ := text_eq_cons numeral
  rw [written, List.cons_append] at read ⊢
  rcases begins with rfl | ⟨digit, rfl⟩
  · change ofStep .number (readNumeral _) = _
    rw [read]
    rfl
  · rw [readValue_digit, read]
    rfl

end Draft

/-- Text that stands for nothing. -/
def Blank (gap : List Char) : Prop := ∀ character ∈ gap, Draft.isBlank character = true

theorem Blank.nil : Blank [] := List.forall_mem_nil _

/-- The entries of a container up to and with its closing bracket. -/
inductive Listed {α : Type} (spells : α → List Char → Prop) (closing : Char) : List α → List Char → Prop
  | last {entry text gap} : spells entry text → Blank gap → Listed spells closing [entry] (text ++ (gap ++ [closing]))
  | next {entry entries text before after rest} : spells entry text → Blank before → Blank after →
      Listed spells closing entries rest →
      Listed spells closing (entry :: entries) (text ++ (before ++ ',' :: (after ++ rest)))

/-- A string in quotation marks, each of its characters written in some way. -/
inductive Quotes : List Char → List Char → Prop
  | mk {text pieces} : List.Forall₂ Draft.Writes text pieces → Quotes text ('"' :: (pieces.flatten ++ ['"']))

theorem Quotes.eq_cons {text written : List Char} (quotes : Quotes text written) : ∃ rest, written = '"' :: rest := by
  obtain ⟨_⟩ := quotes
  exact ⟨_, rfl⟩

theorem Quotes.length {text written : List Char} (quotes : Quotes text written) : text.length + 2 ≤ written.length := by
  obtain ⟨writes⟩ := quotes
  have := Draft.length_le_flatten writes
  simp only [List.length_cons, List.length_append, List.length_nil]
  omega

theorem quotes_quoted (text : List Char) : Quotes text (quoted text) := by
  have pieces : List.Forall₂ Draft.Writes text (text.map escaped) := by
    rw [List.forall₂_map_right_iff, List.forall₂_same]
    exact fun character _ => Draft.writes_escaped character
  have quotes := Quotes.mk pieces
  rwa [← List.flatMap_def] at quotes

inductive Labelled (spells : Json → List Char → Prop) : String × Json → List Char → Prop
  | mk {key value label text before after} : Quotes key.toList label → Blank before → Blank after → spells value text →
      Labelled spells (key, value) (label ++ (before ++ ':' :: (after ++ text)))

/-- A text that spells a tree in some layout. -/
inductive Spells : Json → List Char → Prop
  | null : Spells .null "null".toList
  | bool {value} : Spells (.bool value) (boolText value)
  | number {value} : Spells (.number value) value.text
  | string {value text} : Quotes value.toList text → Spells (.string value) text
  | noItems {gap} : Blank gap → Spells (.array []) ('[' :: (gap ++ [']']))
  | items {items gap text} : Blank gap → Listed Spells ']' items text → Spells (.array items) ('[' :: (gap ++ text))
  | noMembers {gap} : Blank gap → Spells (.object []) ('\x7b' :: (gap ++ ['\x7d']))
  | members {members gap text} : Blank gap → Listed (Labelled Spells) '\x7d' members text →
      Spells (.object members) ('\x7b' :: (gap ++ text))

theorem Listed.eq_cons {α : Type} {spells : α → List Char → Prop} {starts : Char → Prop} {closing : Char}
    {entries : List α} {text : List Char}
    (each : ∀ entry text, spells entry text → ∃ first rest, text = first :: rest ∧ starts first)
    (listed : Listed spells closing entries text) : ∃ first rest, text = first :: rest ∧ starts first := by
  cases listed with
  | last entry _ =>
    obtain ⟨first, rest, rfl, begins⟩ := each _ _ entry
    exact ⟨first, _, rfl, begins⟩
  | next entry _ _ _ =>
    obtain ⟨first, rest, rfl, begins⟩ := each _ _ entry
    exact ⟨first, _, rfl, begins⟩

theorem Labelled.eq_cons {spells : Json → List Char → Prop} (member : String × Json) (text : List Char)
    (labelled : Labelled spells member text) : ∃ first rest, text = first :: rest ∧ first = '"' := by
  obtain ⟨⟨_⟩, _, _, _⟩ := labelled
  exact ⟨'"', _, rfl, rfl⟩

theorem Spells.eq_cons (tree : Json) (text : List Char) (spells : Spells tree text) :
    ∃ first rest, text = first :: rest ∧ Draft.Begins first := by
  cases spells with
  | null => exact ⟨_, _, rfl, by decide, by decide⟩
  | @bool value => cases value <;> exact ⟨_, _, rfl, by decide, by decide⟩
  | @number numeral =>
    obtain ⟨first, rest, written, begins⟩ := Draft.text_eq_cons numeral
    refine ⟨first, rest, written, ?_⟩
    rcases begins with rfl | ⟨digit, rfl⟩
    · exact ⟨by decide, by decide⟩
    · exact Draft.begins_char digit
  | string quotes =>
    obtain ⟨_⟩ := quotes
    exact ⟨_, _, rfl, by decide, by decide⟩
  | noItems | items | noMembers | members => exact ⟨_, _, rfl, by decide, by decide⟩

namespace Draft

theorem skipBlank_append {gap : List Char} (blank : Blank gap) (text : List Char) :
    skipBlank (gap ++ text) = skipBlank text :=
  List.dropWhile_append_of_pos blank

theorem skipBlank_cons {first : Char} (notBlank : isBlank first = false) (text : List Char) :
    skipBlank (first :: text) = first :: text := by
  simp [skipBlank, notBlank]

theorem readValue_append {gap : List Char} (blank : Blank gap) (fuel : Nat) (text : List Char) :
    readValue (fuel + 1) (gap ++ text) = readValue (fuel + 1) text := by
  simp only [readValue, skipBlank_append blank]

theorem endsNumeral_append {gap rest : List Char} (blank : Blank gap) (ends : EndsNumeral rest) :
    EndsNumeral (gap ++ rest) := by
  cases gap with
  | nil => exact ends
  | cons first gap =>
    have isBlank := blank first List.mem_cons_self
    simp only [Draft.isBlank, Bool.or_eq_true, beq_iff_eq] at isBlank
    rcases isBlank with ((rfl | rfl) | rfl) | rfl
    all_goals exact ⟨by rintro _ ⟨⟩; rfl, by simp, by simp⟩

theorem endsNumeral_behind {gap : List Char} (blank : Blank gap) {character : Char}
    (between : character = ',' ∨ character = ']' ∨ character = '\x7d') (rest : List Char) :
    EndsNumeral (gap ++ character :: rest) := by
  refine endsNumeral_append blank ?_
  rcases between with rfl | rfl | rfl
  all_goals exact ⟨by rintro _ ⟨⟩; rfl, by simp, by simp⟩

private theorem readValue_openArray (fuel : Nat) {gap : List Char} (blank : Blank gap) {first : Char}
    (begins : Begins first)
    (text : List Char) : readValue (fuel + 1) ('[' :: (gap ++ first :: text)) =
      (.array (readItems fuel (first :: text)).1, (readItems fuel (first :: text)).2) := by
  obtain ⟨notBlank, notClose⟩ := begins
  have opened : skipBlank ('[' :: (gap ++ first :: text)) = '[' :: (gap ++ first :: text) := rfl
  simp only [readValue, opened, skipBlank_append blank, skipBlank_cons notBlank]
  split
  next impossible => cases impossible
  next same => exact absurd (List.cons.inj same).1 notClose
  next => rfl

private theorem readValue_openObject (fuel : Nat) {gap : List Char} (blank : Blank gap) (text : List Char) :
    readValue (fuel + 1) ('\x7b' :: (gap ++ '"' :: text)) =
      (.object (readMembers fuel text).1, (readMembers fuel text).2) := by
  have opened : skipBlank ('\x7b' :: (gap ++ '"' :: text)) = '\x7b' :: (gap ++ '"' :: text) := rfl
  have begun : skipBlank ('"' :: text) = '"' :: text := rfl
  simp only [readValue, opened, skipBlank_append blank, begun]

private theorem readItems_last {fuel : Nat} {text gap rest : List Char} {item : Draft} (blank : Blank gap)
    (read : readValue fuel text = (item, some (gap ++ ']' :: rest))) :
    readItems (fuel + 1) text = ([item], some rest) := by
  have close : skipBlank (']' :: rest) = ']' :: rest := rfl
  simp only [readItems, read, skipBlank_append blank, close]

private theorem readItems_next {fuel : Nat} {text before after rest : List Char} {item : Draft} {first : Char}
    (blank : Blank before) (blankToo : Blank after) (begins : Begins first)
    (read : readValue fuel text = (item, some (before ++ ',' :: (after ++ first :: rest)))) :
    readItems (fuel + 1) text =
      (item :: (readItems fuel (first :: rest)).1, (readItems fuel (first :: rest)).2) := by
  obtain ⟨notBlank, notClose⟩ := begins
  have separator : skipBlank (',' :: (after ++ first :: rest)) = ',' :: (after ++ first :: rest) := rfl
  simp only [readItems, read, skipBlank_append blank, separator, skipBlank_append blankToo, skipBlank_cons notBlank]
  split
  next impossible => cases impossible
  next same => exact absurd (List.cons.inj same).1 notClose
  next => rfl

private theorem readMembers_last {fuel : Nat} {text before after gap rest : List Char} {key : String} {value : Draft}
    (keyRead : readString fuel text = .ok (.ok key, before ++ ':' :: after)) (blank : Blank before)
    (read : readValue fuel after = (value, some (gap ++ '\x7d' :: rest))) (blankToo : Blank gap) :
    readMembers (fuel + 1) text = ([(.ok key, value)], some rest) := by
  have colon : skipBlank (':' :: after) = ':' :: after := rfl
  have close : skipBlank ('\x7d' :: rest) = '\x7d' :: rest := rfl
  simp only [readMembers, keyRead, skipBlank_append blank, colon, read, skipBlank_append blankToo, close]

private theorem readMembers_next {fuel : Nat} {text before after gap gapToo rest : List Char} {key : String}
    {value : Draft}
    (keyRead : readString fuel text = .ok (.ok key, before ++ ':' :: after)) (blank : Blank before)
    (read : readValue fuel after = (value, some (gap ++ ',' :: (gapToo ++ '"' :: rest)))) (blankGap : Blank gap)
    (blankToo : Blank gapToo) : readMembers (fuel + 1) text =
      ((.ok key, value) :: (readMembers fuel rest).1, (readMembers fuel rest).2) := by
  have colon : skipBlank (':' :: after) = ':' :: after := rfl
  have separator : skipBlank (',' :: (gapToo ++ '"' :: rest)) = ',' :: (gapToo ++ '"' :: rest) := rfl
  have begun : skipBlank ('"' :: rest) = '"' :: rest := rfl
  simp only [readMembers, keyRead, skipBlank_append blank, colon, read, skipBlank_append blankGap, separator,
    skipBlank_append blankToo, begun]

/-- Texts that so much fuel is enough for are read. What follows must not go on with a numeral. -/
def ReadsWith (fuel : Nat) : Prop :=
  ∀ {tree text}, Spells tree text → 2 * text.length ≤ fuel → ∀ {rest}, EndsNumeral rest →
    readValue fuel (text ++ rest) = (toDraft tree, some rest)

private theorem readItems_listed {items : List Json} {text : List Char} (listed : Listed Spells ']' items text) {fuel :
    Nat}
    (reads : ∀ less < fuel, ReadsWith less) (enough : 2 * text.length < fuel) (rest : List Char) :
    readItems fuel (text ++ rest) = (toDraftItems items, some rest) := by
  obtain ⟨fuel, rfl⟩ : ∃ less, fuel = less + 1 := ⟨fuel - 1, by omega⟩
  induction listed generalizing fuel with
  | @last item text gap spells blank =>
    simp only [List.length_append, List.length_cons, List.length_nil] at enough
    have read := reads fuel (by omega) spells (by omega) (endsNumeral_behind blank (Or.inr (Or.inl rfl)) rest)
    simp only [List.append_assoc, List.singleton_append]
    exact readItems_last blank read
  | @next item items text before after others spells blank blankToo listed ih =>
    simp only [List.length_append, List.length_cons] at enough
    obtain ⟨first, tail, rfl, begins⟩ := listed.eq_cons Spells.eq_cons
    have read := reads fuel (by omega) spells (by omega)
      (endsNumeral_behind blank (Or.inl rfl) (after ++ first :: (tail ++ rest)))
    obtain ⟨fuel, rfl⟩ : ∃ less, fuel = less + 1 := ⟨fuel - 1, by omega⟩
    have others := ih fuel (fun less small => reads less (by omega)) (by omega)
    simp only [List.append_assoc, List.cons_append] at others ⊢
    rw [readItems_next blank blankToo begins read, others]
    rfl

theorem readMembers_listed {members : List (String × Json)} {whole : List Char}
    (listed : Listed (Labelled Spells) '\x7d' members whole) {text : List Char} (begun : whole = '"' :: text)
    {fuel : Nat} (reads : ∀ less < fuel, ReadsWith less) (enough : 2 * text.length < fuel) (rest : List Char) :
    readMembers fuel (text ++ rest) = (toDraftMembers members, some rest) := by
  obtain ⟨fuel, rfl⟩ : ∃ less, fuel = less + 1 := ⟨fuel - 1, by omega⟩
  induction listed generalizing fuel text with
  | @last member memberText gap labelled blank =>
    obtain @⟨key, value, _, valueText, before, after, @⟨pieces, writes⟩, blankBefore, blankAfter, spells⟩ := labelled
    obtain rfl : pieces.flatten ++ '"' :: (before ++ ':' :: (after ++ (valueText ++ (gap ++ ['\x7d'])))) = text := by
      simpa using begun
    have longer := length_le_flatten writes
    simp only [List.length_append, List.length_cons, List.length_nil] at enough
    have keyRead := readString_flatten fuel writes (by omega)
      (before ++ ':' :: (after ++ (valueText ++ (gap ++ '\x7d' :: rest))))
    have read := reads fuel (by omega) spells (by omega) (endsNumeral_behind blank (Or.inr (Or.inr rfl)) rest)
    obtain ⟨fuel, rfl⟩ : ∃ less, fuel = less + 1 := ⟨fuel - 1, by omega⟩
    rw [← readValue_append blankAfter] at read
    simp only [List.append_assoc, List.cons_append, List.nil_append]
    exact readMembers_last keyRead blankBefore read blank
  | @next member members memberText gap gapToo others labelled blankGap blankToo listed ih =>
    obtain @⟨key, value, _, valueText, before, after, @⟨pieces, writes⟩, blankBefore, blankAfter, spells⟩ := labelled
    obtain ⟨_, tail, rfl, rfl⟩ := listed.eq_cons Labelled.eq_cons
    obtain rfl : pieces.flatten ++
        '"' :: (before ++ ':' :: (after ++ (valueText ++ (gap ++ ',' :: (gapToo ++ '"' :: tail))))) = text := by
      simpa using begun
    have longer := length_le_flatten writes
    simp only [List.length_append, List.length_cons] at enough
    have keyRead := readString_flatten fuel writes (by omega)
      (before ++ ':' :: (after ++ (valueText ++ (gap ++ ',' :: (gapToo ++ '"' :: (tail ++ rest))))))
    have read := reads fuel (by omega) spells (by omega)
      (endsNumeral_behind blankGap (Or.inl rfl) (gapToo ++ '"' :: (tail ++ rest)))
    obtain ⟨fuel, rfl⟩ : ∃ less, fuel = less + 1 := ⟨fuel - 1, by omega⟩
    have others := ih rfl fuel (fun less small => reads less (by omega)) (by omega)
    rw [← readValue_append blankAfter] at read
    simp only [List.append_assoc, List.cons_append]
    rw [readMembers_next keyRead blankBefore read blankGap blankToo, others]
    rfl

theorem readsWith (fuel : Nat) : ReadsWith fuel := by
  induction fuel using Nat.strong_induction_on with
  | h fuel ih =>
    intro tree text spells enough rest ends
    obtain ⟨first, others, written, _⟩ := spells.eq_cons
    obtain ⟨fuel, rfl⟩ : ∃ less, fuel = less + 1 := ⟨fuel - 1, by rw [written, List.length_cons] at enough; omega⟩
    cases spells with
    | null => rfl
    | @bool value => cases value <;> rfl
    | @number numeral => exact readValue_numeral fuel numeral ends
    | @string value _ quotes =>
      obtain @⟨pieces, writes⟩ := quotes
      have longer := length_le_flatten writes
      simp only [List.length_append, List.length_cons, List.length_nil] at enough
      have read := readString_flatten fuel writes (by omega) rest
      simp only [List.append_assoc, List.cons_append, List.nil_append]
      change ofStep .string (readString fuel _) = _
      rw [read]
      rfl
    | @noItems gap blank =>
      have opened : skipBlank ('[' :: (gap ++ ']' :: rest)) = '[' :: (gap ++ ']' :: rest) := rfl
      have close : skipBlank (']' :: rest) = ']' :: rest := rfl
      simp only [List.cons_append, List.append_assoc, List.nil_append, readValue, opened, skipBlank_append blank, close]
      rfl
    | @items items gap text blank listed =>
      simp only [List.length_append, List.length_cons] at enough
      have read : readItems fuel (text ++ rest) = _ :=
        readItems_listed listed (fun less small => ih less (by omega)) (by omega) rest
      obtain ⟨first, tail, rfl, begins⟩ := listed.eq_cons Spells.eq_cons
      simp only [List.cons_append, List.append_assoc] at read ⊢
      rw [readValue_openArray fuel blank begins, read]
      rfl
    | @noMembers gap blank =>
      have opened : skipBlank ('\x7b' :: (gap ++ '\x7d' :: rest)) = '\x7b' :: (gap ++ '\x7d' :: rest) := rfl
      have close : skipBlank ('\x7d' :: rest) = '\x7d' :: rest := rfl
      simp only [List.cons_append, List.append_assoc, List.nil_append, readValue, opened, skipBlank_append blank, close]
      rfl
    | @members members gap text blank listed =>
      obtain ⟨_, tail, rfl, rfl⟩ := listed.eq_cons Labelled.eq_cons
      simp only [List.length_append, List.length_cons] at enough
      have read : readMembers fuel (tail ++ rest) = _ :=
        readMembers_listed listed rfl (fun less small => ih less (by omega)) (by omega) rest
      simp only [List.cons_append, List.append_assoc]
      rw [readValue_openObject fuel blank, read]
      rfl

/-- A text that spells a tree is read as the draft of that tree, whatever its layout and to its last character. -/
theorem ofText_of_spells {tree : Json} {text gap : List Char} (spells : Spells tree text) (blank : Blank gap) :
    ofText (text ++ gap) = (toDraft tree, none) := by
  have skipped := skipBlank_append blank []
  have ends := endsNumeral_append blank endsNumeral_nil
  rw [List.append_nil] at skipped ends
  have enough : 2 * text.length ≤ fuelFor (text ++ gap) := by
    rw [fuelFor, List.length_append]
    omega
  rw [ofText, readsWith _ spells enough ends]
  simp only [skipped]
  rfl

end Draft

theorem Listed.separated {α : Type} {spells : α → List Char → Prop} {closing : Char} {entries : List α}
    {texts : List (List Char)} (each : List.Forall₂ spells entries texts) (present : entries ≠ [])
    {gap tail : List Char} (blank : Blank gap) (blankToo : Blank tail) :
    Listed spells closing entries (Json.separated (',' :: gap) texts ++ (tail ++ [closing])) := by
  induction each with
  | nil => exact absurd rfl present
  | cons spells each ih =>
    cases each with
    | nil => exact .last spells blankToo
    | cons nextSpells each =>
      have rest := ih (List.cons_ne_nil _ _)
      simp only [Json.separated, List.append_assoc, List.cons_append]
      exact .next spells Blank.nil blank rest

theorem Spells.array {items : List Json} {texts : List (List Char)} (each : List.Forall₂ Spells items texts)
    (present : items ≠ []) {gap tail : List Char} (blank : Blank gap) (blankToo : Blank tail) :
    Spells (.array items) ('[' :: (gap ++ (Json.separated (',' :: gap) texts ++ (tail ++ [']'])))) :=
  .items blank (.separated each present blank blankToo)

theorem Spells.object {members : List (String × Json)} {texts : List (List Char)}
    (each : List.Forall₂ (Labelled Spells) members texts) (present : members ≠ []) {gap tail : List Char}
    (blank : Blank gap) (blankToo : Blank tail) :
    Spells (.object members) ('\x7b' :: (gap ++ (Json.separated (',' :: gap) texts ++ (tail ++ ['\x7d'])))) :=
  .members blank (.separated each present blank blankToo)

mutual

theorem spells_compact (tree : Json) : Spells tree (compact tree) :=
  match tree with
  | .null => .null
  | .bool _ => .bool
  | .number _ => .number
  | .string _ => .string (quotes_quoted _)
  | .array [] => .noItems Blank.nil
  | .array (item :: items) => by
    have spells := Spells.array (spells_compactItems (item :: items)) (List.cons_ne_nil _ _) Blank.nil Blank.nil
    simpa only [compact, List.nil_append, List.cons_append] using spells
  | .object [] => .noMembers Blank.nil
  | .object (member :: members) => by
    have spells := Spells.object (spells_compactMembers (member :: members)) (List.cons_ne_nil _ _) Blank.nil Blank.nil
    simpa only [compact, List.nil_append, List.cons_append] using spells

theorem spells_compactItems (items : List Json) : List.Forall₂ Spells items (compactItems items) :=
  match items with
  | [] => .nil
  | item :: items => .cons (spells_compact item) (spells_compactItems items)

theorem spells_compactMembers (members : List (String × Json)) :
    List.Forall₂ (Labelled Spells) members (compactMembers members) :=
  match members with
  | [] => .nil
  | (_, value) :: members =>
    .cons (.mk (quotes_quoted _) Blank.nil Blank.nil (spells_compact value)) (spells_compactMembers members)

end

private theorem blank_newline (depth : Nat) : Blank (newline depth) := by
  intro character member
  rcases List.mem_cons.mp member with rfl | member
  · rfl
  · rw [List.eq_of_mem_replicate member]
    rfl

private theorem blank_space : Blank [' '] := List.forall_mem_singleton.mpr rfl

mutual

private theorem spells_pretty (depth : Nat) (tree : Json) : Spells tree (pretty depth tree) :=
  match tree with
  | .null => .null
  | .bool _ => .bool
  | .number _ => .number
  | .string _ => .string (quotes_quoted _)
  | .array [] => .noItems Blank.nil
  | .array (item :: items) => by
    have spells := Spells.array (spells_prettyItems (depth + 1) (item :: items)) (List.cons_ne_nil _ _)
      (blank_newline (depth + 1)) (blank_newline depth)
    simpa [pretty, block, prettyItems] using spells
  | .object [] => .noMembers Blank.nil
  | .object ((key, value) :: members) => by
    have spells := Spells.object (spells_prettyMembers (depth + 1) ((key, value) :: members)) (List.cons_ne_nil _ _)
      (blank_newline (depth + 1)) (blank_newline depth)
    simpa [pretty, block, prettyMembers] using spells

theorem spells_prettyItems (depth : Nat) (items : List Json) : List.Forall₂ Spells items (prettyItems depth items) :=
  match items with
  | [] => .nil
  | item :: items => .cons (spells_pretty depth item) (spells_prettyItems depth items)

theorem spells_prettyMembers (depth : Nat) (members : List (String × Json)) :
    List.Forall₂ (Labelled Spells) members (prettyMembers depth members) :=
  match members with
  | [] => .nil
  | (_, value) :: members =>
    .cons (.mk (quotes_quoted _) Blank.nil blank_space (spells_pretty depth value)) (spells_prettyMembers depth members)

end

/-- A text that is this tree and nothing else, but for blanks. -/
def IsReadFrom (tree : Json) (text : String) : Prop := Draft.ofText text.toList = (tree.toDraft, none)

theorem ofText_compact (tree : Json) : Draft.ofText (compact tree) = (toDraft tree, none) := by
  have read := Draft.ofText_of_spells (spells_compact tree) Blank.nil
  rwa [List.append_nil] at read

theorem isReadFrom_compactText (tree : Json) {gap : String} (blank : Blank gap.toList) :
    tree.IsReadFrom (tree.compactText ++ gap) := by
  rw [IsReadFrom, String.toList_append, compactText, String.toList_ofList]
  exact Draft.ofText_of_spells (spells_compact tree) blank

theorem isReadFrom_prettyText (tree : Json) {gap : String} (blank : Blank gap.toList) :
    tree.IsReadFrom (tree.prettyText ++ gap) := by
  rw [IsReadFrom, String.toList_append, prettyText, String.toList_ofList]
  exact Draft.ofText_of_spells (spells_pretty 0 tree) blank

mutual

private theorem toDraft_injective : ∀ {one other : Json}, one.toDraft = other.toDraft → one = other
  | .null, other, same => by
    cases other
    all_goals cases same
    rfl
  | .bool _, other, same => by
    cases other
    all_goals cases same
    rfl
  | .number _, other, same => by
    cases other
    all_goals cases same
    rfl
  | .string _, other, same => by
    cases other
    all_goals cases same
    rfl
  | .array items, other, same => by
    cases other with
    | array others => rw [toDraftItems_injective (Draft.array.inj same)]
    | _ => cases same
  | .object members, other, same => by
    cases other with
    | object others => rw [toDraftMembers_injective (Draft.object.inj same)]
    | _ => cases same

private theorem toDraftItems_injective : ∀ {one other : List Json}, toDraftItems one = toDraftItems other → one = other
  | [], other, same => by
    cases other
    all_goals cases same
    rfl
  | item :: items, other, same => by
    cases other with
    | nil => cases same
    | cons otherItem others =>
      obtain ⟨first, rest⟩ := List.cons.inj same
      rw [toDraft_injective first, toDraftItems_injective rest]

private theorem toDraftMembers_injective : ∀ {one other : List (String × Json)},
    toDraftMembers one = toDraftMembers other → one = other
  | [], other, same => by
    cases other
    all_goals cases same
    rfl
  | (key, value) :: members, other, same => by
    cases other with
    | nil => cases same
    | cons member others =>
      obtain ⟨otherKey, otherValue⟩ := member
      obtain ⟨first, rest⟩ := List.cons.inj same
      obtain ⟨sameKey, sameValue⟩ := Prod.mk.inj first
      rw [Except.ok.inj sameKey, toDraft_injective sameValue, toDraftMembers_injective rest]

end

theorem IsReadFrom.unique {one other : Json} {text : String} (first : one.IsReadFrom text)
    (second : other.IsReadFrom text) : one = other :=
  toDraft_injective (Prod.mk.inj (first.symm.trans second)).1

private theorem ofStep_ne_object {α : Type} {wrap : α → Draft} (plain : ∀ value members, wrap value ≠ .object members)
    (step : Except Malformed (α × List Char)) (members : List (Except Malformed String × Draft)) :
    (Draft.ofStep wrap step).1 ≠ .object members := by
  cases step with
  | ok read => exact plain read.1 members
  | error fault => exact Draft.noConfusion

theorem begins_of_object {fuel : Nat} {text : List Char} {members : List (Except Malformed String × Draft)}
    (read : (Draft.readValue (fuel + 1) text).1 = .object members) :
    ∃ others, Draft.skipBlank text = '\x7b' :: others := by
  unfold Draft.readValue at read
  split at read
  case h_7 rest begun => exact ⟨rest, begun⟩
  case h_1 => cases read
  case h_6 =>
    split at read
    all_goals cases read
  case h_8 =>
    split at read
    · exact absurd read (ofStep_ne_object (by rintro _ _ ⟨⟩) _ _)
    · cases read
  all_goals exact absurd read (ofStep_ne_object (by rintro _ _ ⟨⟩) _ _)

theorem not_isReadFrom {members : List (String × Json)} {text : String}
    (other : ∀ others, Draft.skipBlank text.toList ≠ '\x7b' :: others) : ¬ (Json.object members).IsReadFrom text := by
  intro told
  have read : (Draft.readValue (Draft.fuelFor text.toList) text.toList).1 = .object (toDraftMembers members) := by
    have whole := congrArg Prod.fst told
    unfold Draft.ofText at whole
    split at whole
    next found =>
      rw [found]
      exact whole
    next found =>
      rw [found]
      split at whole
      all_goals exact whole
  obtain ⟨others, begun⟩ := begins_of_object read
  exact other others begun

end ApiStyle.Json
