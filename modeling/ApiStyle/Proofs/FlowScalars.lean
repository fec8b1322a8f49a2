import ApiStyle.Proofs.Lookahead
import ApiStyle.Proofs.PortableText

/-! Strings, words and numbers of portable JSON as scalars of flow collections. -/

namespace ApiStyle.Yaml

open Json (IsPortable isPortable IsBare isBare)

theorem blank_cases {character : Char} (blank : Json.Draft.isBlank character = true) :
    isBlank character = true ∨ character = '\n' ∨ character = '\r' := by
  simp only [Json.Draft.isBlank, Bool.or_eq_true, beq_iff_eq] at blank
  rcases blank with ((rfl | rfl) | rfl) | rfl
  · exact Or.inl rfl
  · exact Or.inr (Or.inl rfl)
  · exact Or.inl rfl
  · exact Or.inr (Or.inr rfl)

namespace Cursor

variable {cursor : Cursor}

@[simp] theorem advance_zero (cursor : Cursor) : cursor.advance 0 = cursor := rfl

@[simp] theorem advance_advance (cursor : Cursor) (one two : Nat) :
    (cursor.advance one).advance two = cursor.advance (one + two) := by
  simp [advance, Position.right, List.drop_drop, Nat.add_assoc]

@[simp] theorem fuel_advance (cursor : Cursor) (count : Nat) : (cursor.advance count).fuel = cursor.fuel := rfl

theorem rest_advance {text rest : List Char} (here : cursor.rest = text ++ rest) :
    (cursor.advance text.length).rest = rest := by
  change cursor.rest.drop text.length = rest
  rw [here, List.drop_left]

theorem rest_next {first : Char} {rest : List Char} (here : cursor.rest = first :: rest) :
    (cursor.advance 1).rest = rest := by
  change cursor.rest.drop 1 = rest
  rw [here, List.drop_one, List.tail_cons]

theorem head?_eq {first : Char} {rest : List Char} (here : cursor.rest = first :: rest) :
    cursor.head? = some first := by
  rw [head?, here, List.head?_cons]

theorem starts_eq {first : Char} {rest : List Char} (here : cursor.rest = first :: rest) (character : Char) :
    cursor.starts character = (first == character) := by
  rw [starts, head?_eq here]
  rfl

/-- A text that does not go on with the end of a line. -/
def Unbroken (tail : List Char) : Prop := ∀ character ∈ tail.head?, isBreak character = false

theorem takeBreak_eq {first : Char} {blanks tail : List Char} (ends : first = '\n' ∨ first = '\r')
    (unbroken : Unbroken tail) (here : cursor.rest = first :: (blanks ++ tail)) :
    ∃ found rest position, cursor.takeBreak = (found, { cursor with rest := rest ++ tail, position }) ∧
      rest <:+ blanks := by
  rcases ends with rfl | rfl
  · exact ⟨['\n'], blanks, cursor.position.down 1, by simp [takeBreak, here, isBreak], List.suffix_rfl⟩
  · by_cases pair : ∃ more, blanks = '\n' :: more
    · obtain ⟨more, rfl⟩ := pair
      exact ⟨['\n'], more, cursor.position.down 2, by simp [takeBreak, here], List.suffix_cons _ _⟩
    · refine ⟨['\n'], blanks, cursor.position.down 1, ?_, List.suffix_rfl⟩
      have single : ∀ more, blanks ++ tail ≠ '\n' :: more := by
        intro more same
        cases blanks with
        | nil => exact absurd (unbroken '\n' (by simp [show tail = '\n' :: more from same])) (by decide)
        | cons blank blanks =>
          obtain rfl := (List.cons.inj same).1
          exact pair ⟨_, rfl⟩
      unfold takeBreak
      split
      next rest given =>
        rw [here] at given
        exact absurd (List.cons.inj given).2 (single rest)
      next given =>
        rw [here] at given
        obtain ⟨rfl, rfl⟩ := List.cons.inj given
        rfl
      next given =>
        rw [here] at given
        cases given

end Cursor

theorem hexValue?_eq {digit : Char} {value : Nat} (read : Json.Draft.hexValue? digit = some value) :
    hexValue? digit = some value := by
  simp only [Json.Draft.hexValue?] at read
  simp only [hexValue?, Char.le_def, UInt32.le_iff_toNat_le]
  exact read

private theorem readEscape_code {start : Position} {cursor : Cursor} {code : Nat} {digits rest : List Char}
    (read : Json.Draft.readHex digits = .ok (code, [])) (valid : code.isValidChar)
    (here : cursor.rest = '\\' :: 'u' :: digits ++ rest) :
    readEscape start cursor = .ok (Char.ofNat code, cursor.advance ('\\' :: 'u' :: digits).length) := by
  unfold Json.Draft.readHex at read
  split at read
  next one two three four _ =>
    split at read
    next readOne readTwo readThree readFour =>
      obtain ⟨rfl, rfl⟩ := Prod.mk.inj (Except.ok.inj read)
      have letter : cursor.ahead? 1 = some 'u' := by simp [Cursor.ahead?, here]
      have digits : (cursor.advance 2).rest.take 4 = [one, two, three, four] := by
        simp [Cursor.advance, here]
      simp [readEscape, letter, simpleEscape?, escapeWidth?, digits, hexNumber?, hexValue?_eq readOne,
        hexValue?_eq readTwo, hexValue?_eq readThree, hexValue?_eq readFour, valid]
    next => cases read
  next => cases read

theorem simpleEscape?_eq {letter character : Char} (decoded : Json.Draft.simpleEscape? letter = some character) :
    simpleEscape? letter = some character ∧ isBreak letter = false := by
  unfold Json.Draft.simpleEscape? at decoded
  split at decoded
  all_goals cases decoded
  all_goals exact ⟨rfl, rfl⟩

/-- A character with a way of writing it in both formats. -/
def IsWritten (piece : Char × List Char) : Prop := Json.Draft.Writes piece.1 piece.2 ∧ IsPortable piece.2

/-- A blank that stands for itself. Where it is read, it might be the last of its line. -/
def blankPiece : Char × List Char := (' ', [' '])

theorem isBreak_of_portable {character : Char} (portable : IsPortable [character]) : isBreak character = false := by
  simpa using (Bool.and_eq_true_iff.mp (portable character List.mem_cons_self)).2

theorem isBlank_of_ne {character : Char} (visible : 0x20 ≤ character.toNat)
    (solid : (character, [character]) ≠ blankPiece) :
    isBlank character = false := by
  have blank : character ≠ ' ' := by
    rintro rfl
    exact solid rfl
  have tab : character ≠ '\t' := by
    rintro rfl
    exact absurd visible (by decide)
  simp [isBlank, blank, tab]

theorem quotedWord_written {start : Position} {fuel : Nat} {cursor : Cursor} {character : Char} {piece rest : List Char}
    (written : IsWritten (character, piece)) (solid : (character, piece) ≠ blankPiece)
    (here : cursor.rest = piece ++ rest) (word : List Char) : quotedWord false start (fuel + 1) cursor word =
      quotedWord false start fuel (cursor.advance piece.length) (character :: word) := by
  have escape {letter decoded : Char} {more : List Char} (here : cursor.rest = '\\' :: letter :: more)
      (solid : isBreak letter = false) {width : Nat}
      (read : readEscape start cursor = .ok (decoded, cursor.advance width)) :
      quotedWord false start (fuel + 1) cursor word =
        quotedWord false start fuel (cursor.advance width) (decoded :: word) := by
    have first : cursor.head? = some '\\' := Cursor.head?_eq here
    have second : (cursor.ahead? 1).any isBreak = false := by simp [Cursor.ahead?, here, solid]
    have marked : (isBlank '\\' || isBreak '\\') = false := rfl
    simp [quotedWord, first, second, read, marked, bind, Except.bind]
  obtain ⟨writes, portable⟩ : Json.Draft.Writes character piece ∧ IsPortable piece := written
  cases writes with
  | itself visible quote backslash =>
    have first : cursor.head? = some character := Cursor.head?_eq here
    simp [quotedWord, first, quote, backslash, isBreak_of_portable portable, isBlank_of_ne visible solid]
  | @letter _ letter decoded =>
    obtain ⟨decoded, solid⟩ := simpleEscape?_eq decoded
    have second : (cursor.ahead? 1).getD '\x00' = letter := by simp [Cursor.ahead?, here]
    refine escape here solid ?_
    simp only [readEscape, second, decoded]
    rfl
  | code read valid => exact escape here rfl (readEscape_code read valid here)

theorem quotedWord_text {start : Position} {fuel : Nat} {cursor : Cursor} {pieces : List (Char × List Char)}
    {rest : List Char} {stop : Char} (written : ∀ piece ∈ pieces, IsWritten piece)
    (solid : blankPiece ∉ pieces) (here : cursor.rest = pieces.flatMap Prod.snd ++ stop :: rest)
    (stops : stop = ' ' ∨ stop = '"') (enough : pieces.length < fuel) (word : List Char) :
    quotedWord false start fuel cursor word =
      .ok (word.reverse ++ pieces.map Prod.fst, false, cursor.advance (pieces.flatMap Prod.snd).length) := by
  induction pieces generalizing fuel cursor word with
  | nil =>
    obtain ⟨fuel, rfl⟩ := Nat.exists_eq_add_one_of_ne_zero (Nat.ne_of_gt enough)
    have first : cursor.head? = some stop := Cursor.head?_eq here
    rcases stops with rfl | rfl <;> simp [quotedWord, first, isBlank, isBreak]
  | cons piece pieces ih =>
    obtain ⟨fuel, rfl⟩ := Nat.exists_eq_add_one_of_ne_zero (Nat.ne_of_gt (Nat.zero_lt_of_lt enough))
    obtain ⟨first, written⟩ := List.forall_mem_cons.mp written
    obtain ⟨solidFirst, solid⟩ := not_or.mp (mt List.mem_cons.mpr solid)
    rw [List.flatMap_cons, List.append_assoc] at here
    rw [quotedWord_written first (Ne.symm solidFirst) here]
    rw [ih written solid (Cursor.rest_advance here) (Nat.lt_of_succ_lt_succ enough)]
    simp [List.flatMap_cons]

private theorem quotedGap_blanks {fuel : Nat} {cursor : Cursor} {count : Nat} {stop : Char} {rest : List Char}
    (here : cursor.rest = List.replicate count ' ' ++ stop :: rest)
    (stops : isBlank stop = false ∧ isBreak stop = false)
    (enough : count < fuel) {gap : Gap} (inside : gap.broken = false) : quotedGap fuel cursor gap =
      ({ gap with blanks := gap.blanks ++ List.replicate count ' ' }, cursor.advance count) := by
  induction count generalizing fuel cursor gap with
  | zero =>
    obtain ⟨fuel, rfl⟩ := Nat.exists_eq_add_one_of_ne_zero (Nat.ne_of_gt enough)
    have first : cursor.head? = some stop := by simp [Cursor.head?, here]
    simp [quotedGap, first, stops]
  | succ count ih =>
    obtain ⟨fuel, rfl⟩ := Nat.exists_eq_add_one_of_ne_zero (Nat.ne_of_gt (Nat.zero_lt_of_lt enough))
    have first : cursor.head? = some ' ' := by simp [Cursor.head?, here, List.replicate_succ]
    have next : (cursor.advance 1).rest = List.replicate count ' ' ++ stop :: rest := by
      simp [Cursor.advance, here, List.replicate_succ]
    have blank : isBlank ' ' = true := rfl
    simp only [quotedGap, first, blank, if_true]
    have added : gap.addBlank ' ' = { gap with blanks := gap.blanks ++ [' '] } := by simp [Gap.addBlank, inside]
    rw [ih next (Nat.lt_of_succ_lt_succ enough) (by rw [added]; exact inside), added]
    simp [List.replicate_succ, Nat.add_comm]

theorem exists_words {α : Type} [DecidableEq α] (blank : α) (pieces : List α) : ∃ word count others,
    pieces = word ++ (List.replicate count blank ++ others) ∧ blank ∉ word ∧ others.head? ≠ some blank ∧
      (count = 0 → others = []) := by
  induction pieces with
  | nil => exact ⟨[], 0, [], rfl, List.not_mem_nil, by simp, fun _ => rfl⟩
  | cons piece pieces ih =>
    obtain ⟨word, count, others, rfl, solid, later, whole⟩ := ih
    by_cases same : piece = blank
    · subst same
      cases word with
      | nil => exact ⟨[], count + 1, others, rfl, List.not_mem_nil, later, by simp⟩
      | cons first word =>
        refine ⟨[], 1, _, rfl, List.not_mem_nil, ?_, by simp⟩
        intro same
        exact solid (Option.some.inj same ▸ List.mem_cons_self)
    · refine ⟨piece :: word, count, others, rfl, ?_, later, whole⟩
      exact fun member => (List.mem_cons.mp member).elim (fun equal => same equal.symm) solid

theorem exists_stop {others : List (Char × List Char)} {rest : List Char} (written : ∀ piece ∈ others, IsWritten piece)
    (later : others.head? ≠ some blankPiece) :
    ∃ stop more, others.flatMap Prod.snd ++ '"' :: rest = stop :: more ∧ isBlank stop = false ∧
      isBreak stop = false := by
  cases others with
  | nil => exact ⟨'"', rest, rfl, rfl, rfl⟩
  | cons piece others =>
    have solid : piece ≠ blankPiece := fun same => later (congrArg some same)
    obtain ⟨character, text⟩ := piece
    obtain ⟨writes, portable⟩ : Json.Draft.Writes character text ∧ IsPortable text := written _ List.mem_cons_self
    cases writes with
    | itself visible _ _ => exact ⟨character, _, rfl, isBlank_of_ne visible solid, isBreak_of_portable portable⟩
    | letter | code => exact ⟨'\\', _, rfl, rfl, rfl⟩

private theorem quotedFrom_of_word {start : Position} {fuel : Nat} {cursor after : Cursor} {word : List Char}
    (mark : cursor.atDocumentMark = false) (inside : cursor.atEnd = false)
    (read : quotedWord false start cursor.fuel cursor [] = .ok (word, false, after)) (before : List Char) :
    quotedFrom false start (fuel + 1) cursor before =
      if after.starts '"' then .ok (before ++ word, after.advance 1)
      else quotedFrom false start fuel (quotedGap after.fuel after {}).2
        (before ++ word ++ (quotedGap after.fuel after {}).1.text) := by
  rw [quotedFrom]
  simp only [mark, inside, read]
  rfl

private theorem quotedFrom_text {start : Position} {fuel : Nat} {cursor : Cursor} {pieces : List (Char × List Char)}
    {rest : List Char} (written : ∀ piece ∈ pieces, IsWritten piece)
    (here : cursor.rest = pieces.flatMap Prod.snd ++ '"' :: rest) (column : 0 < cursor.column)
    (enough : pieces.length < fuel) (fuelled : pieces.length < cursor.fuel) (before : List Char) :
    quotedFrom false start fuel cursor before =
      .ok (before ++ pieces.map Prod.fst, cursor.advance ((pieces.flatMap Prod.snd).length + 1)) := by
  induction fuel generalizing cursor pieces before with
  | zero => exact absurd enough (Nat.not_lt_zero _)
  | succ fuel ih =>
    -- a round reads a word with the blanks behind it, or the last word with the quotation mark
    obtain ⟨word, count, others, rfl, solid, later, whole⟩ := exists_words blankPiece pieces
    obtain ⟨writtenWord, written⟩ := List.forall_mem_append.mp written
    simp only [List.length_append, List.length_replicate] at enough fuelled
    have mark : cursor.atDocumentMark = false := by
      simp [Cursor.atDocumentMark, Nat.ne_of_gt column]
    have inside : cursor.atEnd = false := by
      simp [Cursor.atEnd, here]
    cases count with
    | zero =>
      obtain rfl := whole rfl
      simp only [List.replicate_zero, List.append_nil] at here ⊢
      have read : quotedWord false start cursor.fuel cursor [] = _ :=
        quotedWord_text writtenWord solid here (Or.inr rfl) (by omega) []
      have closed : (cursor.advance (word.flatMap Prod.snd).length).starts '"' = true :=
        Cursor.starts_eq (Cursor.rest_advance here) '"'
      rw [quotedFrom_of_word mark inside read, if_pos closed, Cursor.advance_advance]
      rfl
    | succ count =>
      obtain ⟨_, written⟩ := List.forall_mem_append.mp written
      obtain ⟨stop, more, first, stops⟩ := exists_stop written later
      have blanks (count : Nat) : (List.replicate count blankPiece).flatMap Prod.snd = List.replicate count ' ' := by
        induction count with
        | zero => rfl
        | succ count ih => rw [List.replicate_succ, List.flatMap_cons, ih]; rfl
      rw [List.flatMap_append, List.flatMap_append, blanks] at here ⊢
      rw [List.append_assoc, List.append_assoc] at here
      have read : quotedWord false start cursor.fuel cursor [] = _ :=
        quotedWord_text writtenWord solid here (Or.inl rfl) (by omega) []
      have behind := Cursor.rest_advance here
      have gap : quotedGap cursor.fuel _ ({} : Gap) = _ :=
        quotedGap_blanks (first ▸ behind) stops (by omega) rfl
      have rest := Cursor.rest_advance behind
      rw [List.length_replicate, Cursor.advance_advance] at rest
      have goesOn : (cursor.advance (word.flatMap Prod.snd).length).starts '"' = false := Cursor.starts_eq behind '"'
      have right (count : Nat) : 0 < (cursor.advance count).column := Nat.lt_of_lt_of_le column (Nat.le_add_right _ _)
      have others := ih written rest (right _) (by omega) (by rw [Cursor.fuel_advance]; omega)
      rw [quotedFrom_of_word mark inside read, if_neg (Bool.eq_false_iff.mp goesOn), Cursor.fuel_advance, gap,
        Cursor.advance_advance, others]
      simp [Gap.text, Nat.add_assoc, blankPiece]

theorem exists_pieces {text : List Char} {written : List (List Char)}
    (writes : List.Forall₂ Json.Draft.Writes text written) (portable : ∀ piece ∈ written, IsPortable piece) :
    ∃ pieces : List (Char × List Char), pieces.map Prod.fst = text ∧ pieces.flatMap Prod.snd = written.flatten ∧
      ∀ piece ∈ pieces, IsWritten piece := by
  induction writes with
  | nil => exact ⟨[], rfl, rfl, List.forall_mem_nil _⟩
  | @cons character piece text written first _ ih =>
    obtain ⟨portableFirst, portable⟩ := List.forall_mem_cons.mp portable
    obtain ⟨pieces, rfl, same, each⟩ := ih portable
    exact ⟨(character, piece) :: pieces, rfl, by rw [List.flatMap_cons, same, List.flatten_cons],
      List.forall_mem_cons.mpr ⟨⟨first, portableFirst⟩, each⟩⟩

theorem readQuoted_text {cursor : Cursor} {text written rest : List Char} (quotes : Json.Quotes text written)
    (portable : IsPortable written) (here : cursor.rest = written ++ rest) (enough : cursor.rest.length ≤ cursor.fuel) :
    readQuoted false cursor = .ok (text, cursor.advance written.length) := by
  obtain @⟨written, writes⟩ := quotes
  have inside : ∀ piece ∈ written, IsPortable piece := fun piece among character member =>
    portable character (List.mem_cons_of_mem _ (List.mem_append_left _ (List.mem_flatten_of_mem among member)))
  have length := Json.Draft.length_le_flatten writes
  obtain ⟨pieces, rfl, same, each⟩ := exists_pieces writes inside
  simp only [← same, List.cons_append, List.append_assoc, List.nil_append, List.length_map] at here length ⊢
  have shorter : pieces.length + 2 ≤ cursor.rest.length := by
    simp only [here, List.length_append, List.length_cons]
    omega
  have behind := Cursor.rest_next here
  have read : quotedFrom false cursor.position cursor.fuel (cursor.advance 1) [] = _ :=
    quotedFrom_text each behind (Nat.succ_pos _) (by omega) (by rw [Cursor.fuel_advance]; omega) []
  rw [readQuoted, read, Cursor.advance_advance]
  simp [Nat.add_comm]

/-- The text of a word or a number of JSON: nothing but bare characters, and a letter or digit first, perhaps behind a
sign. -/
def IsPlain (text : List Char) : Prop :=
  IsBare text ∧ ∃ sign first rest, text = sign ++ first :: rest ∧ (sign = [] ∨ sign = ['-']) ∧ first ≠ '-' ∧ first ≠ '.'

/-- A character that ends a plain scalar in a flow collection. -/
def Stops (character : Char) : Prop := character = ',' ∨ character = ']' ∨ character = '\x7d'

private theorem Stops.solid {stop : Char} (stops : Stops stop) : isBlank stop = false ∧ isBreak stop = false := by
  rcases stops with rfl | rfl | rfl <;> exact ⟨rfl, rfl⟩

theorem ne_of_isBare {character other : Char} (bare : isBare character = true) (strange : isBare other = false) :
    character ≠ other := by
  rintro rfl
  exact Bool.false_ne_true (strange.symm.trans bare)

theorem solid_of_isBare {character : Char} (bare : isBare character = true) :
    isBlank character = false ∧ isBreak character = false ∧ isFlowIndicator character = false ∧ character ≠ ':' ∧
      character ≠ '#' := by
  have strange (other : Char) (strange : isBare other = false) : character ≠ other := ne_of_isBare bare strange
  refine ⟨?_, ?_, ?_, strange ':' rfl, strange '#' rfl⟩
  · simp [isBlank, strange ' ' rfl, strange '\t' rfl]
  · simp [isBreak, strange '\n' rfl, strange '\r' rfl, strange '\u0085' rfl, strange '\u2028' rfl, strange '\u2029' rfl]
  · simp [isFlowIndicator, strange ',' rfl, strange '[' rfl, strange ']' rfl, strange '\x7b' rfl, strange '\x7d' rfl]

theorem plainWord_text {start : Position} {fuel : Nat} {cursor : Cursor} {text more : List Char} {stop : Char}
    (bare : IsBare text) (here : cursor.rest = text ++ stop :: more)
    (stops : isBlank stop = true ∨ isBreak stop = true ∨ Stops stop) (enough : text.length < fuel) (word : List Char) :
    plainWord true start fuel cursor word = .ok (word.reverse ++ text, cursor.advance text.length) := by
  induction text generalizing fuel cursor word with
  | nil =>
    obtain ⟨fuel, rfl⟩ := Nat.exists_eq_add_one_of_ne_zero (Nat.ne_of_gt enough)
    have first := Cursor.head?_eq here
    have other : stop ≠ ':' := by
      rintro rfl
      rcases stops with blank | broken | stops
      · cases blank
      · cases broken
      · rcases stops with same | same | same <;> cases same
    have ends : endsPlain true cursor = true := by
      simp only [endsPlain, Cursor.spaceAt, Cursor.sees, Cursor.ahead?, here, first]
      rcases stops with blank | broken | rfl | rfl | rfl
      · simp [blank]
      · simp [broken]
      all_goals simp [isFlowIndicator]
    simp [plainWord, first, other, ends]
  | cons character text ih =>
    obtain ⟨fuel, rfl⟩ := Nat.exists_eq_add_one_of_ne_zero (Nat.ne_of_gt (Nat.zero_lt_of_lt enough))
    obtain ⟨bareFirst, bare⟩ := List.forall_mem_cons.mp bare
    obtain ⟨blank, broken, indicator, colon, _⟩ := solid_of_isBare bareFirst
    have first := Cursor.head?_eq here
    have goesOn : endsPlain true cursor = false := by
      simp [endsPlain, Cursor.spaceAt, Cursor.sees, Cursor.ahead?, Cursor.starts, here, first, blank, broken,
        indicator, colon]
    have next : (cursor.advance 1).rest = text ++ stop :: more := Cursor.rest_next here
    simp [plainWord, first, colon, goesOn, ih bare next (Nat.lt_of_succ_lt_succ enough), Nat.add_comm]

theorem plainGap_blanks {start : Position} {fuel : Nat} {cursor : Cursor} {blanks more : List Char} {stop : Char}
    (blank : Json.Blank blanks) (here : cursor.rest = blanks ++ stop :: more)
    (stops : isBlank stop = false ∧ isBreak stop = false) (enough : blanks.length < fuel) (gap : Gap) :
    ∃ gapToo after, plainGap 0 start fuel cursor gap = .ok (gapToo, after) ∧ after.rest = stop :: more ∧
      after.fuel = cursor.fuel := by
  induction fuel generalizing cursor blanks gap with
  | zero => exact absurd enough (Nat.not_lt_zero _)
  | succ fuel ih =>
    cases blanks with
    | nil =>
      have first := Cursor.head?_eq here
      exact ⟨gap, cursor, by simp [plainGap, first, stops], here, rfl⟩
    | cons character blanks =>
      obtain ⟨isBlankFirst, blank⟩ := List.forall_mem_cons.mp blank
      have first := Cursor.head?_eq here
      have shorter := Nat.lt_of_succ_lt_succ enough
      rcases blank_cases isBlankFirst with isBlankFirst | ends
      · obtain ⟨gapToo, after, read, rest⟩ := ih blank (Cursor.rest_next here) shorter (gap.addBlank character)
        refine ⟨gapToo, after, ?_, rest⟩
        have inside : ¬ (cursor.column : Int) < 0 := Int.not_lt.mpr (Int.natCast_nonneg _)
        simp [plainGap, first, isBlankFirst, inside, read]
      · have unbroken : Cursor.Unbroken (stop :: more) := by
          rintro _ ⟨⟩
          exact stops.2
        obtain ⟨found, rest, position, taken, suffix⟩ := Cursor.takeBreak_eq ends unbroken here
        obtain ⟨gapToo, after, read, rest⟩ := @ih ⟨rest ++ stop :: more, position, cursor.fuel⟩ _
          (fun character member => blank character (suffix.subset member)) rfl
            (Nat.lt_of_le_of_lt suffix.length_le shorter) (gap.addBreak found)
        refine ⟨gapToo, after, ?_, rest⟩
        have kind : isBlank character = false ∧ isBreak character = true := by
          rcases ends with rfl | rfl <;> exact ⟨rfl, rfl⟩
        simp [plainGap, first, kind, taken, read]

theorem plainFrom_stop {start : Position} {fuel : Nat} {cursor : Cursor} {more : List Char} {stop : Char}
    (stops : Stops stop)
    (here : cursor.rest = stop :: more) (enough : 0 < cursor.fuel) (text : List Char) (gap : Gap) :
    plainFrom true 0 start fuel cursor text gap = .ok ⟨text, gap.broken, cursor⟩ := by
  cases fuel with
  | zero => rfl
  | succ fuel =>
    have apart : (cursor.atDocumentMark || cursor.starts '#') = false := by
      rw [Cursor.starts_eq here]
      rcases stops with rfl | rfl | rfl <;> simp [Cursor.atDocumentMark, here]
    have word : plainWord true start cursor.fuel cursor [] = .ok ([], cursor) :=
      plainWord_text (List.forall_mem_nil _) here (Or.inr (Or.inr stops)) enough []
    rw [plainFrom, apart, word]
    rfl

theorem readPlain_text {cursor : Cursor} {text blanks more : List Char} {stop : Char} (plain : IsPlain text)
    (blank : Json.Blank blanks) (stops : Stops stop) (here : cursor.rest = text ++ (blanks ++ stop :: more))
    (enough : cursor.rest.length ≤ cursor.fuel) :
    ∃ newLine after, readPlain true (-1) cursor = .ok ⟨text, newLine, after⟩ ∧ after.rest = stop :: more ∧
      after.fuel = cursor.fuel := by
  have length := enough
  simp only [here, List.length_append, List.length_cons] at length
  have mark : (cursor.atDocumentMark || cursor.starts '#') = false := by
    obtain ⟨bare, sign, first, others, rfl, signed, hyphen, point⟩ := plain
    have hash : first ≠ '#' := (solid_of_isBare (bare first (by simp))).2.2.2.2
    rcases signed with rfl | rfl
    · simp [Cursor.atDocumentMark, Cursor.starts_eq here, here, hyphen, point, hash]
    · simp [Cursor.atDocumentMark, Cursor.starts_eq here, here, hyphen]
  have some : text.isEmpty = false := by
    obtain ⟨_, sign, first, others, rfl, _⟩ := plain
    simp
  obtain ⟨fuel, sameFuel⟩ := Nat.exists_eq_add_one_of_ne_zero (show cursor.fuel ≠ 0 by omega)
  have behind := Cursor.rest_advance here
  have inside : (cursor.advance text.length).atEnd = false := by simp [Cursor.atEnd, behind]
  have word : plainWord true cursor.position cursor.fuel cursor [] = .ok (text, cursor.advance text.length) := by
    cases blanks with
    | nil => exact plainWord_text plain.1 here (Or.inr (Or.inr stops)) (by omega) []
    | cons first blanks =>
      have kind : isBlank first = true ∨ isBreak first = true ∨ Stops first := by
        rcases blank_cases (blank first List.mem_cons_self) with blank | rfl | rfl
        · exact Or.inl blank
        · exact Or.inr (Or.inl rfl)
        · exact Or.inr (Or.inl rfl)
      exact plainWord_text plain.1 here kind (by omega) []
  have step : readPlain true (-1) cursor =
      if (cursor.advance text.length).spaceAt 0 then
        plainGap 0 cursor.position cursor.fuel (cursor.advance text.length) {} >>= fun found =>
          plainFrom true 0 cursor.position fuel found.2 text found.1
      else .ok ⟨text, false, cursor.advance text.length⟩ := by
    unfold readPlain
    rw [sameFuel, plainFrom, mark, word, ← sameFuel]
    simp only [bind, Except.bind, some, inside]
    cases (cursor.advance text.length).spaceAt 0 <;> rfl
  rw [step]
  cases blanks with
  | nil =>
    have ends : (cursor.advance text.length).spaceAt 0 = false := by
      simp [Cursor.spaceAt, Cursor.ahead?, behind, stops.solid]
    exact ⟨false, _, if_neg (by simp [ends]), behind, rfl⟩
  | cons first blanks =>
    have goesOn : (cursor.advance text.length).spaceAt 0 = true := by
      rcases blank_cases (blank first List.mem_cons_self) with blank | rfl | rfl
      · simp [Cursor.spaceAt, Cursor.ahead?, behind, blank]
      · simp [Cursor.spaceAt, Cursor.ahead?, behind, isBreak]
      · simp [Cursor.spaceAt, Cursor.ahead?, behind, isBreak]
    simp only [List.length_cons] at length
    obtain ⟨gap, after, read, rest, fuels⟩ : ∃ gap after,
        plainGap 0 cursor.position cursor.fuel (cursor.advance text.length) {} = .ok (gap, after) ∧
          after.rest = stop :: more ∧ after.fuel = cursor.fuel :=
      plainGap_blanks blank behind stops.solid (by simp only [List.length_cons]; omega) {}
    refine ⟨gap.broken, after, ?_, rest, fuels⟩
    rw [if_pos goesOn, read]
    exact plainFrom_stop stops rest (by omega) text gap

end ApiStyle.Yaml
