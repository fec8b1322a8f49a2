import ApiStyle.Proofs.FlowScalars
import Mathlib.Data.List.Basic
import Mathlib.Data.List.InsertIdx

/-! How the brackets, commas, colons and scalars of portable JSON are read as tokens, each with the blanks before it. -/

namespace ApiStyle

namespace Yaml

open Json (IsPortable isBare Inline)

namespace Lexer

variable {lexer : Lexer} {depth : Nat} {tokens : List Token}

/-- A lexer that has read some tokens and stands before a text, inside so many flow collections. -/
structure Before (depth : Nat) (tokens : List Token) (rest : List Char) (lexer : Lexer) : Prop where
  here : lexer.cursor.rest = rest
  enough : rest.length < lexer.cursor.fuel
  pending : lexer.pending.length = depth + 1
  optional : ∀ key, some key ∈ lexer.pending → key.required = false
  indent : lexer.indent = -1
  indents : lexer.indents = []
  queue : lexer.queue.map Placed.token = tokens
  taken : lexer.taken = 0

theorem Before.inFlow {rest : List Char} (before : lexer.Before depth tokens rest) :
    lexer.inFlow = decide (0 < depth) := by
  simp [Lexer.inFlow, before.pending]

theorem Before.of_eq {rest other : List Char} (before : lexer.Before depth tokens rest) (same : rest = other) :
    lexer.Before depth tokens other := same ▸ before

theorem Before.ofText (text : List Char) : (ofText text).Before 0 [] text where
  here := rfl
  enough := Nat.lt_succ_self _
  pending := rfl
  optional key member := by cases List.mem_singleton.mp member
  indent := rfl
  indents := rfl
  queue := rfl
  taken := rfl

theorem Reads.trans {one two : Nat} {first middle last : Lexer} (earlier : Reads one first middle)
    (later : Reads two middle last) : Reads (two + one) first last := by
  induction earlier with
  | refl => exact later
  | step run fuel _ ih => exact .step run fuel (ih later)

/-- Reading leads from one lexer to another, with at least one character for every step. -/
def Passes (first last : Lexer) : Prop :=
  ∃ count, Reads count first last ∧ count + last.cursor.rest.length ≤ first.cursor.rest.length

theorem Passes.trans {first middle last : Lexer} (earlier : first.Passes middle) (later : middle.Passes last) :
    first.Passes last := by
  obtain ⟨one, reads, shorter⟩ := earlier
  obtain ⟨two, readsToo, shorterToo⟩ := later
  exact ⟨two + one, reads.trans readsToo, by omega⟩

/-- A text that starts with something that a token may start with, or that is empty. -/
def Solid (tail : List Char) : Prop :=
  ∀ first ∈ tail.head?, isBlank first = false ∧ isBreak first = false ∧ first ≠ '#' ∧ first ≠ '\ufeff'

private theorem Solid.unbroken {tail : List Char} (solid : Solid tail) : Cursor.Unbroken tail :=
  fun first member => (solid first member).2.1

theorem skipLine_eq {cursor : Cursor} {test : Char → Bool} {line tail : List Char}
    (blank : ∀ character ∈ line, test character)
    (ends : ∀ first ∈ tail.head?, test first = false ∧ first ≠ '#' ) (here : cursor.rest = line ++ tail) :
    (cursor.skip test).skipComment = cursor.advance line.length := by
  have taken : cursor.rest.takeWhile test = line := by
    rw [here, List.takeWhile_append_of_pos blank]
    cases tail with
    | nil => rw [List.takeWhile_nil, List.append_nil]
    | cons first tail => rw [List.takeWhile_cons_of_neg (by simp [(ends first rfl).1]), List.append_nil]
  have skipped : cursor.skip test = cursor.advance line.length := by
    unfold Cursor.skip Cursor.span
    rw [taken]
  have comment : (cursor.advance line.length).starts '#' = false := by
    rw [Cursor.starts, Cursor.head?, Cursor.rest_advance here, beq_eq_false_iff_ne]
    intro hash
    exact (ends '#' hash).2 rfl
  rw [skipped, Cursor.skipComment, comment]
  rfl

theorem exists_line {test : Char → Bool} {gap : List Char}
    (each : ∀ character ∈ gap, test character = true ∨ character = '\n' ∨ character = '\r') :
    ∃ line others, gap = line ++ others ∧ (∀ character ∈ line, test character = true) ∧
      (others = [] ∨ ∃ first more, others = first :: more ∧ test first = false ∧ (first = '\n' ∨ first = '\r')) := by
  induction gap with
  | nil => exact ⟨[], [], rfl, List.forall_mem_nil _, Or.inl rfl⟩
  | cons character gap ih =>
    obtain ⟨here, each⟩ := List.forall_mem_cons.mp each
    cases inside : test character with
    | true =>
      obtain ⟨line, others, rfl, blank, ends⟩ := ih each
      exact ⟨character :: line, others, rfl, List.forall_mem_cons.mpr ⟨inside, blank⟩, ends⟩
    | false =>
      have ends := here.resolve_left (by simp [inside])
      exact ⟨[], character :: gap, rfl, List.forall_mem_nil _, Or.inr ⟨character, gap, rfl, inside, ends⟩⟩

/-- The blanks that may stand before a token on its line. -/
def skips (lexer : Lexer) (character : Char) : Bool :=
  character == ' ' || (lexer.inFlow || !lexer.keyAllowed) && character == '\t'

theorem skipSpace_line {fuel : Nat} {line tail : List Char} (blank : ∀ character ∈ line, lexer.skips character = true)
    (apart : ∀ first ∈ tail.head?, lexer.skips first = false ∧ first ≠ '#' ∧ first ≠ '\ufeff')
    (here : lexer.cursor.rest = line ++ tail) : skipSpace (fuel + 1) lexer =
      if (lexer.cursor.advance line.length).sees isBreak then
        skipSpace fuel { lexer with
          cursor := (lexer.cursor.advance line.length).takeBreak.2, keyAllowed := lexer.keyAllowed || !lexer.inFlow }
      else { lexer with cursor := lexer.cursor.advance line.length } := by
  have mark : ¬ (lexer.cursor.column = 0 ∧ lexer.cursor.starts '\ufeff' = true) := by
    rw [Cursor.starts, Cursor.head?, here, beq_iff_eq]
    rintro ⟨_, same⟩
    cases line with
    | nil => exact (apart _ same).2.2 rfl
    | cons first line =>
      obtain rfl := Option.some.inj same
      have inside := blank _ List.mem_cons_self
      simp [skips] at inside
  have line_eq : (lexer.cursor.skip fun character =>
      character == ' ' || (lexer.inFlow || !lexer.keyAllowed) && character == '\t').skipComment =
        lexer.cursor.advance line.length :=
    skipLine_eq blank (fun first member => ⟨(apart first member).1, (apart first member).2.1⟩) here
  simp only [skipSpace, if_neg mark, line_eq]

theorem skipSpace_of_solid {fuel : Nat} {line tail : List Char}
    (blank : ∀ character ∈ line, lexer.skips character = true)
    (solid : Solid tail) (here : lexer.cursor.rest = line ++ tail) :
    skipSpace (fuel + 1) lexer = { lexer with cursor := lexer.cursor.advance line.length } := by
  have apart : ∀ first ∈ tail.head?, lexer.skips first = false ∧ first ≠ '#' ∧ first ≠ '\ufeff' := by
    intro first member
    obtain ⟨solid, _, hash, mark⟩ := solid first member
    simp only [isBlank, Bool.or_eq_false_iff] at solid
    exact ⟨by simp [skips, solid], hash, mark⟩
  rw [skipSpace_line blank apart here, if_neg]
  rw [Cursor.sees, Cursor.head?, Cursor.rest_advance here]
  cases tail with
  | nil => exact Bool.false_ne_true
  | cons first tail => exact Bool.eq_false_iff.mp (solid first rfl).2.1

/-- Blanks and line ends are skipped. Outside of collections no tab may be among them. -/
theorem skipSpace_blanks {fuel : Nat} {gap tail : List Char} (blank : Json.Blank gap)
    (tabs : lexer.inFlow = true ∨ '\t' ∉ gap) (solid : Solid tail) (here : lexer.cursor.rest = gap ++ tail)
    (enough : gap.length < fuel) : ∃ position keyAllowed,
      skipSpace fuel lexer = { lexer with cursor := { lexer.cursor with rest := tail, position }, keyAllowed } ∧
        (lexer.inFlow = true → keyAllowed = lexer.keyAllowed) := by
  induction fuel generalizing lexer gap with
  | zero => exact absurd enough (Nat.not_lt_zero _)
  | succ fuel ih =>
    have each : ∀ character ∈ gap, lexer.skips character = true ∨ character = '\n' ∨ character = '\r' := by
      intro character member
      refine (blank_cases (blank character member)).imp_left fun blank => ?_
      simp only [isBlank, Bool.or_eq_true, beq_iff_eq] at blank
      rcases blank with rfl | rfl
      · rfl
      · simp [skips, tabs.resolve_right (not_not_intro member)]
    obtain ⟨line, others, rfl, blankLine, ends⟩ := exists_line each
    rw [List.append_assoc] at here
    have behind := Cursor.rest_advance here
    rcases ends with rfl | ⟨first, more, rfl, inside, kind⟩
    · refine ⟨(lexer.cursor.advance line.length).position, lexer.keyAllowed, ?_, fun _ => rfl⟩
      rw [skipSpace_of_solid blankLine solid here, ← show (lexer.cursor.advance line.length).rest = tail from behind]
      rfl
    · have apart : ∀ start ∈ (first :: more ++ tail).head?,
          lexer.skips start = false ∧ start ≠ '#' ∧ start ≠ '\ufeff' := by
        rintro _ ⟨⟩
        exact ⟨inside, by rcases kind with rfl | rfl <;> decide⟩
      have broken : (lexer.cursor.advance line.length).sees isBreak = true := by
        rw [Cursor.sees, Cursor.head?, behind]
        rcases kind with rfl | rfl <;> rfl
      obtain ⟨found, rest, position, taken, suffix⟩ := Cursor.takeBreak_eq kind solid.unbroken behind
      have kept {character : Char} (member : character ∈ rest) : character ∈ line ++ first :: more :=
        List.mem_append_right _ (List.mem_cons_of_mem _ (suffix.subset member))
      have shorter : rest.length < fuel := by
        have := suffix.length_le
        simp only [List.length_append, List.length_cons] at enough
        omega
      rw [skipSpace_line blankLine apart here, if_pos broken, taken]
      obtain ⟨position, keyAllowed, skipped, same⟩ := @ih { lexer with
        cursor := ⟨rest ++ tail, position, lexer.cursor.fuel⟩, keyAllowed := lexer.keyAllowed || !lexer.inFlow }
        rest (fun character member => blank character (kept member))
        (tabs.imp_right fun free member => free (kept member)) rfl shorter
      refine ⟨position, keyAllowed, skipped, fun flow => ?_⟩
      rw [same flow, flow]
      exact Bool.or_false _

private theorem Solid.plain {text : List Char} (plain : IsPlain text) (tail : List Char) : Solid (text ++ tail) := by
  obtain ⟨bare, sign, first, others, rfl, signed, _⟩ := plain
  have each {character : Char} (inside : isBare character = true) : isBlank character = false ∧
      isBreak character = false ∧ character ≠ '#' ∧ character ≠ '\ufeff' := by
    obtain ⟨blank, broken, _, _, hash⟩ := solid_of_isBare inside
    exact ⟨blank, broken, hash, ne_of_isBare inside rfl⟩
  rintro _ member
  rcases signed with rfl | rfl
  · obtain rfl := Option.some.inj member
    exact each (bare _ List.mem_cons_self)
  · obtain rfl := Option.some.inj member
    decide

theorem readToken_plain {spaced : Lexer} {text tail : List Char} (plain : IsPlain text)
    (expired : (skipSpace lexer.cursor.fuel lexer).expireKeys = .ok spaced)
    (closed : spaced.closeTo spaced.cursor.column = spaced) (here : spaced.cursor.rest = text ++ tail) :
    lexer.readToken = spaced.readPlainScalar := by
  obtain ⟨bare, sign, first, others, rfl, signed, hyphen, point⟩ := plain
  have inside : isBare first = true := bare first (by simp)
  obtain ⟨blank, broken, _⟩ := solid_of_isBare inside
  have strange (other : Char) (strange : isBare other = false) : first ≠ other := ne_of_isBare inside strange
  rw [Lexer.readToken, expired]
  rcases signed with rfl | rfl
  · have head : spaced.cursor.head? = some first := Cursor.head?_eq here
    have mark : spaced.cursor.atDocumentMark = false := by simp [Cursor.atDocumentMark, here, hyphen, point]
    have starts : spaced.startsPlain first = true := by
      have indicator : isIndicator first = false := by
        simp [isIndicator, hyphen, strange '?' rfl, strange ':' rfl, strange ',' rfl, strange '[' rfl, strange ']' rfl,
          strange '\x7b' rfl, strange '\x7d' rfl, strange '#' rfl, strange '&' rfl, strange '*' rfl, strange '!' rfl,
          strange '|' rfl, strange '>' rfl, strange '\'' rfl, strange '"' rfl, strange '%' rfl, strange '@' rfl,
          strange '\x60' rfl]
      simp [startsPlain, blank, broken, indicator]
    simp only [bind, Except.bind, closed, head, mark]
    rw [if_neg (by simp [strange '%' rfl]), if_neg Bool.false_ne_true]
    split
    iterate 10 exact absurd inside (by decide)
    rw [if_neg (by simp [hyphen]), if_neg (by simp [strange '?' rfl]), if_neg (by simp [strange ':' rfl]),
      if_neg (by simp [strange '|' rfl]), if_neg (by simp [strange '>' rfl]), if_pos starts]
  · have head : spaced.cursor.head? = some '-' := Cursor.head?_eq here
    have next : spaced.cursor.ahead? 1 = some first := by simp [Cursor.ahead?, here]
    have mark : spaced.cursor.atDocumentMark = false := by simp [Cursor.atDocumentMark, here, hyphen]
    simp [bind, Except.bind, closed, head, mark, startsPlain, Cursor.spaceAt, next, blank, broken]

namespace Before

/-- What is left of the pending keys before a token changes nothing about where the lexer stands. -/
theorem expireKeys {rest : List Char} (before : lexer.Before depth tokens rest) :
    lexer.expireKeys = .ok { lexer with pending := lexer.pending.map (fresh? lexer.cursor) } ∧
      { lexer with pending := lexer.pending.map (fresh? lexer.cursor) }.Before depth tokens rest := by
  refine ⟨expireKeys_eq_ok.mpr ⟨fun key member _ => before.optional key member, rfl⟩,
    { before with pending := ?_, optional := ?_ }⟩
  · rw [List.length_map, before.pending]
  · exact fun key member => before.optional key (mem_of_fresh member)

theorem closeTo {rest : List Char} (before : lexer.Before depth tokens rest) (column : Int) :
    lexer.closeTo column = lexer := by
  unfold Lexer.closeTo
  split
  · rfl
  · rw [before.indents, closeBlocks]

theorem spaced {gap tail : List Char} (before : lexer.Before depth tokens (gap ++ tail)) (blank : Json.Blank gap)
    (tabs : 0 < depth ∨ '\t' ∉ gap) (solid : Solid tail) :
    ∃ next, (skipSpace lexer.cursor.fuel lexer).expireKeys = .ok next ∧ next.Before depth tokens tail ∧
      next.cursor.fuel = lexer.cursor.fuel ∧ (0 < depth → next.keyAllowed = lexer.keyAllowed) := by
  have enough := before.enough
  simp only [List.length_append] at enough
  have inFlow : lexer.inFlow = true ∨ '\t' ∉ gap := by simpa [before.inFlow] using tabs
  obtain ⟨position, keyAllowed, skipped, same⟩ := skipSpace_blanks blank inFlow solid before.here
    (show gap.length < lexer.cursor.fuel by omega)
  have moved :
      { lexer with cursor := { lexer.cursor with rest := tail, position }, keyAllowed }.Before depth tokens tail :=
    { before with here := rfl, enough := show tail.length < lexer.cursor.fuel by omega }
  obtain ⟨expired, after⟩ := moved.expireKeys
  rw [skipped]
  exact ⟨_, expired, after, rfl, fun inside => same (by simpa [before.inFlow] using inside)⟩

private theorem insertIdx_length {α : Type} (front back : List α) (value : α) :
    (front ++ back).insertIdx front.length value = front ++ value :: back := by
  induction front with
  | nil => rfl
  | cons first front ih => simpa using ih

theorem removeKey {rest : List Char} (before : lexer.Before depth tokens rest) :
    ∃ next, lexer.removeKey = .ok next ∧ next.Before depth tokens rest ∧ next.cursor = lexer.cursor ∧
      next.pending = none :: lexer.pending.drop 1 := by
  unfold Lexer.removeKey
  split
  next key others found =>
    have optional : key.required = false := before.optional key (found ▸ List.mem_cons_self)
    refine ⟨_, if_neg (by simp [optional]), { before with pending := ?_, optional := ?_ }, rfl, by rw [found]; rfl⟩
    · rw [← before.pending, found]
      rfl
    · intro key member
      refine before.optional key ?_
      rw [found]
      exact List.mem_cons_of_mem _ (List.mem_of_ne_of_mem (by simp) member)
  next free =>
    refine ⟨lexer, rfl, before, rfl, ?_⟩
    cases found : lexer.pending with
    | nil => exact absurd (found ▸ before.pending) (by simp)
    | cons first others =>
      cases first with
      | none => rfl
      | some key => exact absurd found (free key others)

theorem saveKey {rest : List Char} (before : lexer.Before depth tokens rest) :
    ∃ next, lexer.saveKey = .ok next ∧ next.Before depth tokens rest ∧ next.cursor = lexer.cursor ∧
      (lexer.keyAllowed = true → next.pending.head? = some (some ⟨tokens.length, lexer.position, false⟩)) := by
  by_cases allowed : lexer.keyAllowed
  · obtain ⟨removed, run, after, cursor, _⟩ := before.removeKey
    have required : (!lexer.inFlow && decide (lexer.indent = lexer.cursor.column)) = false := by
      have outside : ¬ lexer.indent = lexer.cursor.column := by
        rw [before.indent]
        omega
      rw [decide_eq_false outside, Bool.and_false]
    have number : lexer.taken + lexer.queue.length = tokens.length := by
      rw [before.taken, Nat.zero_add, ← before.queue, List.length_map]
    rw [saveKey_of_allowed lexer allowed, run, required, number]
    refine ⟨_, rfl, { after with pending := ?_, optional := ?_ }, cursor, fun _ => rfl⟩
    · have := after.pending
      simp only [List.length_cons, List.length_drop]
      omega
    · rintro key (_ | ⟨_, member⟩)
      · rfl
      · exact after.optional key (List.mem_of_mem_drop member)
  · exact ⟨lexer, saveKey_of_not_allowed lexer allowed, before, rfl, fun still => absurd still allowed⟩

theorem emitHere {character : Char} {rest : List Char} (before : lexer.Before depth tokens (character :: rest))
    (token : Token) :
    (lexer.emitHere token 1).Before depth (tokens ++ [token]) rest where
  here := Cursor.rest_next before.here
  enough := Nat.lt_of_succ_lt before.enough
  pending := before.pending
  optional := before.optional
  indent := before.indent
  indents := before.indents
  queue := by rw [← before.queue]; exact List.map_append
  taken := before.taken

theorem length_lt (gap : List Char) (first : Char) (rest : List Char) :
    rest.length < (gap ++ first :: rest).length := by
  rw [List.length_append, List.length_cons]
  omega

theorem passes {next : Lexer} {others : List Token} {level : Nat} {text rest : List Char}
    (before : lexer.Before depth tokens text) (run : lexer.readToken = .ok next)
    (fuel : next.cursor.fuel = lexer.cursor.fuel) (after : next.Before level others rest)
    (shorter : rest.length < text.length) : lexer.Passes next :=
  ⟨1, .step run fuel .refl, by rw [before.here, after.here]; omega⟩

theorem opens {bracket : Char} {token : Token} {gap rest : List Char}
    (opening : bracket = '[' ∧ token = .flowSequence ∨ bracket = '\x7b' ∧ token = .flowMapping) (blank : Json.Blank gap)
    (tabs : 0 < depth ∨ '\t' ∉ gap) (before : lexer.Before depth tokens (gap ++ bracket :: rest)) :
    ∃ next, lexer.Passes next ∧ next.Before (depth + 1) (tokens ++ [token]) rest ∧ next.keyAllowed = true := by
  have solid : Solid (bracket :: rest) := by
    rintro _ ⟨⟩
    rcases opening with ⟨rfl, _⟩ | ⟨rfl, _⟩ <;> decide
  obtain ⟨spaced, expired, after, fuel, _⟩ := before.spaced blank tabs solid
  have read : lexer.readToken = spaced.openFlow token := by
    rw [Lexer.readToken, expired]
    simp only [bind, Except.bind, after.closeTo, Cursor.head?_eq after.here]
    rcases opening with ⟨rfl, rfl⟩ | ⟨rfl, rfl⟩ <;> simp [Cursor.atDocumentMark, after.here]
  obtain ⟨saved, run, after, cursor, _⟩ := after.saveKey
  have deeper :
      { saved with pending := none :: saved.pending, keyAllowed := true }.Before (depth + 1) tokens (bracket :: rest) :=
    { after with
      pending := by rw [← after.pending]; rfl
      optional := fun key member => after.optional key (List.mem_of_ne_of_mem (by simp) member) }
  have last := deeper.emitHere token
  refine ⟨_, before.passes (read.trans ?_) ?_ last (length_lt _ _ _), last, rfl⟩
  · rw [openFlow, run]
    rfl
  · rw [← fuel, ← cursor]
    rfl

theorem closes {bracket : Char} {token : Token} {gap rest : List Char}
    (closing : bracket = ']' ∧ token = .flowSequenceEnd ∨ bracket = '\x7d' ∧ token = .flowMappingEnd)
    (blank : Json.Blank gap)
    (before : lexer.Before (depth + 1) tokens (gap ++ bracket :: rest)) :
    ∃ next, lexer.Passes next ∧ next.Before depth (tokens ++ [token]) rest := by
  have solid : Solid (bracket :: rest) := by
    rintro _ ⟨⟩
    rcases closing with ⟨rfl, _⟩ | ⟨rfl, _⟩ <;> decide
  obtain ⟨spaced, expired, after, fuel, _⟩ := before.spaced blank (Or.inl (Nat.succ_pos _)) solid
  have read : lexer.readToken = spaced.closeFlow token := by
    rw [Lexer.readToken, expired]
    simp only [bind, Except.bind, after.closeTo, Cursor.head?_eq after.here]
    rcases closing with ⟨rfl, rfl⟩ | ⟨rfl, rfl⟩ <;> simp [Cursor.atDocumentMark, after.here]
  obtain ⟨removed, run, after, cursor, _⟩ := after.removeKey
  have outer :
      { removed with pending := removed.pending.drop 1, keyAllowed := false }.Before depth tokens (bracket :: rest) :=
    { after with
      pending := by rw [List.length_drop, after.pending]; rfl
      optional := fun key member => after.optional key (List.mem_of_mem_drop member) }
  have last := outer.emitHere token
  refine ⟨_, before.passes (read.trans ?_) ?_ last (length_lt _ _ _), last⟩
  · have inFlow : removed.inFlow = true := by simp [after.inFlow]
    simp only [closeFlow, run, bind, Except.bind, inFlow]
    rfl
  · rw [← fuel, ← cursor]
    rfl

theorem comma {gap rest : List Char} (blank : Json.Blank gap)
    (before : lexer.Before (depth + 1) tokens (gap ++ ',' :: rest)) :
    ∃ next, lexer.Passes next ∧ next.Before (depth + 1) (tokens ++ [.flowEntry]) rest ∧ next.keyAllowed = true := by
  have solid : Solid (',' :: rest) := by
    rintro _ ⟨⟩
    decide
  obtain ⟨spaced, expired, after, fuel, _⟩ := before.spaced blank (Or.inl (Nat.succ_pos _)) solid
  have read : lexer.readToken = spaced.readFlowEntry := by
    rw [Lexer.readToken, expired]
    simp [bind, Except.bind, after.closeTo, Cursor.head?_eq after.here, Cursor.atDocumentMark, after.here]
  obtain ⟨removed, run, after, cursor, _⟩ := after.removeKey
  have free : { removed with keyAllowed := true }.Before (depth + 1) tokens (',' :: rest) := { after with }
  have last := free.emitHere .flowEntry
  refine ⟨_, before.passes (read.trans ?_) ?_ last (length_lt _ _ _), last, rfl⟩
  · rw [readFlowEntry, run]
    rfl
  · rw [← fuel, ← cursor]
    rfl

theorem string {text written gap rest : List Char} (quotes : Json.Quotes text written) (portable : IsPortable written)
    (blank : Json.Blank gap) (before : lexer.Before (depth + 1) tokens (gap ++ (written ++ rest))) :
    ∃ next position, lexer.Passes next ∧
      next.Before (depth + 1) (tokens ++ [.scalar .quoted (String.ofList text)]) rest ∧
      next.cursor.position = position.right written.length ∧
      (lexer.keyAllowed = true → next.pending.head? = some (some ⟨tokens.length, position, false⟩)) := by
  obtain ⟨inside, begins⟩ := quotes.eq_cons
  have solid : Solid (written ++ rest) := by
    subst begins
    rintro _ ⟨⟩
    decide
  obtain ⟨spaced, expired, after, fuel, allowed⟩ := before.spaced blank (Or.inl (Nat.succ_pos _)) solid
  have here : spaced.cursor.rest = '"' :: (inside ++ rest) := by
    rw [after.here, begins, List.cons_append]
  have read : lexer.readToken = spaced.readQuotedScalar false := by
    rw [Lexer.readToken, expired]
    simp [bind, Except.bind, after.closeTo, Cursor.head?_eq here, Cursor.atDocumentMark, here]
  obtain ⟨saved, run, after, cursor, key⟩ := after.saveKey
  have scalar : readQuoted false saved.cursor = .ok (text, saved.cursor.advance written.length) :=
    readQuoted_text quotes portable after.here (by rw [after.here]; exact Nat.le_of_lt after.enough)
  have shorter : rest.length < (written ++ rest).length := by
    rw [begins, List.length_append, List.length_cons]
    omega
  have longer := Nat.lt_of_lt_of_le shorter (List.suffix_append gap _).length_le
  let last : Lexer := { saved.emit (.scalar .quoted (String.ofList text)) saved.position
    (saved.cursor.advance written.length).position with
      cursor := saved.cursor.advance written.length, keyAllowed := false }
  have behind : last.Before (depth + 1) (tokens ++ [.scalar .quoted (String.ofList text)]) rest :=
    { after with
      here := Cursor.rest_advance after.here
      enough := Nat.lt_trans shorter after.enough
      queue := by rw [← after.queue]; exact List.map_append }
  refine ⟨last, spaced.position, before.passes (read.trans ?_) ?_ behind longer, behind, ?_, fun free => key ?_⟩
  · rw [readQuotedScalar, run]
    simp only [bind, Except.bind, scalar]
    rfl
  · rw [← fuel, ← cursor]
    rfl
  · rw [Lexer.position, ← cursor]
    rfl
  · rw [allowed (Nat.succ_pos _), free]

theorem colon {key : String} {gap rest : List Char} {position : Position} {count : Nat} (line : Inline gap)
    (short : count + gap.length ≤ 1024) (place : lexer.cursor.position = position.right count)
    (pending : lexer.pending.head? = some (some ⟨tokens.length, position, false⟩))
    (before : lexer.Before (depth + 1) (tokens ++ [.scalar .quoted key]) (gap ++ ':' :: rest)) :
    ∃ next, lexer.Passes next ∧ next.Before (depth + 1) (tokens ++ [.key, .scalar .quoted key, .value]) rest := by
  have inFlow : lexer.inFlow = true := by simp [before.inFlow]
  have solid : Solid (':' :: rest) := by
    rintro _ ⟨⟩
    decide
  have skips : ∀ character ∈ gap, lexer.skips character = true := by
    intro character member
    rw [Lexer.skips, inFlow]
    exact line character member
  let moved : Lexer := { lexer with cursor := lexer.cursor.advance gap.length }
  have enough := before.enough
  simp only [List.length_append, List.length_cons] at enough
  have after : moved.Before (depth + 1) (tokens ++ [.scalar .quoted key]) (':' :: rest) :=
    { before with
      here := Cursor.rest_advance before.here
      enough := show _ < lexer.cursor.fuel by simp only [List.length_cons]; omega }
  have skipped : skipSpace lexer.cursor.fuel lexer = moved := by
    obtain ⟨fuel, same⟩ := Nat.exists_eq_add_one_of_ne_zero (show lexer.cursor.fuel ≠ 0 by omega)
    rw [same, skipSpace_of_solid skips solid before.here]
  obtain ⟨expired, after⟩ := after.expireKeys
  obtain ⟨others, pending⟩ : ∃ others, lexer.pending = some ⟨tokens.length, position, false⟩ :: others :=
    ⟨_, List.eq_cons_of_mem_head? pending⟩
  have fresh : fresh? moved.cursor (some ⟨tokens.length, position, false⟩) = some ⟨tokens.length, position, false⟩ := by
    have still : isStale moved.cursor ⟨tokens.length, position, false⟩ = false := by
      simp [isStale, moved, Cursor.advance, place, Position.right]
      omega
    simp [fresh?, Option.filter_some, still]
  have found : moved.pending.map (fresh? moved.cursor) =
      some ⟨tokens.length, position, false⟩ :: others.map (fresh? moved.cursor) := by
    rw [show moved.pending = lexer.pending from rfl, pending, List.map_cons, fresh]
  rw [found] at expired after
  let keyed : Lexer :=
    { moved with pending := some ⟨tokens.length, position, false⟩ :: others.map (fresh? moved.cursor) }
  have read : lexer.readToken = keyed.readValue := by
    have colonAhead : keyed.cursor.head? = some ':' := Cursor.head?_eq after.here
    have mark : keyed.cursor.atDocumentMark = false := by
      rw [Cursor.atDocumentMark, after.here]
      simp
    rw [Lexer.readToken, skipped, expired]
    simp only [bind, Except.bind, after.closeTo]
    simp [colonAhead, mark, after.inFlow, keyed]
  -- the string before the colon was still pending, so the token that makes a key of it goes in front of it
  let inserted : Lexer := keyed.insert tokens.length .key position
  have split : inserted.queue.map Placed.token = tokens ++ [.key, .scalar .quoted key] := by
    have queue : inserted.queue = keyed.queue.insertIdx tokens.length ⟨.key, position, position⟩ := by
      change keyed.queue.insertIdx (tokens.length - keyed.taken) _ = _
      rw [after.taken, Nat.sub_zero]
    rw [queue, List.map_insertIdx, after.queue, insertIdx_length]
  let followed : Lexer := { inserted with pending := none :: others.map (fresh? moved.cursor), keyAllowed := false }
  have free : followed.Before (depth + 1) (tokens ++ [Token.key, .scalar .quoted key]) (':' :: rest) :=
    { after with
      optional := fun key member => after.optional key (List.mem_cons_of_mem _ (List.mem_of_ne_of_mem (by simp) member))
      queue := split }
  have last := free.emitHere .value
  rw [List.append_assoc] at last
  refine ⟨_, before.passes (read.trans ?_) ?_ last (length_lt _ _ _), last⟩
  · have shut : inserted.isShut position.column = true := by
      rw [isShut, show inserted.inFlow = keyed.inFlow from rfl, after.inFlow]
      rfl
    change Except.ok ({ inserted.openBlock .blockMapping position.column position (some tokens.length) with
      pending := none :: others.map (fresh? moved.cursor), keyAllowed := false }.emitHere .value 1) = _
    rw [openBlock_of_shut _ _ _ _ shut]
  · rfl

theorem plain {text gap blanks rest : List Char} {stop : Char} (plain : IsPlain text) (blank : Json.Blank gap)
    (blanksToo : Json.Blank blanks) (stops : Stops stop)
    (before : lexer.Before (depth + 1) tokens (gap ++ (text ++ (blanks ++ stop :: rest)))) :
    ∃ next, lexer.Passes next ∧
      next.Before (depth + 1) (tokens ++ [.scalar .plain (String.ofList text)]) (stop :: rest) := by
  obtain ⟨spaced, expired, after, fuel, _⟩ := before.spaced blank (Or.inl (Nat.succ_pos _)) (.plain plain _)
  have read := readToken_plain plain expired (after.closeTo _) after.here
  obtain ⟨saved, run, after, cursor, key⟩ := after.saveKey
  obtain ⟨newLine, behind, scalar, rest_eq, fuels⟩ := readPlain_text plain blanksToo stops after.here
    (by rw [after.here]; exact Nat.le_of_lt after.enough)
  have shorter : (stop :: rest).length < (text ++ (blanks ++ stop :: rest)).length := by
    obtain ⟨_, sign, first, others, rfl, _⟩ := plain
    simp only [List.length_append, List.length_cons]
    omega
  have longer := Nat.lt_of_lt_of_le shorter (List.suffix_append gap _).length_le
  let last : Lexer := { saved.emit (.scalar .plain (String.ofList text)) saved.position behind.position with
    cursor := behind, keyAllowed := newLine }
  have final : last.Before (depth + 1) (tokens ++ [.scalar .plain (String.ofList text)]) (stop :: rest) :=
    { after with
      here := rest_eq
      enough := by
        rw [show last.cursor.fuel = saved.cursor.fuel from fuels]
        exact Nat.lt_trans shorter after.enough
      queue := by rw [← after.queue]; exact List.map_append }
  refine ⟨last, before.passes (read.trans ?_) ?_ final longer, final⟩
  · rw [readPlainScalar, run]
    have inFlow : saved.inFlow = true := by simp [after.inFlow]
    simp only [bind, Except.bind, inFlow, after.indent, scalar]
    rfl
  · rw [← fuel, ← cursor]
    exact fuels

theorem finish {gap : List Char} (blank : Json.Blank gap) (tabs : '\t' ∉ gap) (before : lexer.Before 0 tokens gap) :
    ∃ next, lexer.readToken = .ok next ∧ next.cursor.fuel = lexer.cursor.fuel ∧ next.IsDone ∧
      next.queue.map Placed.token = tokens ++ [.streamEnd] := by
  rw [← List.append_nil gap] at before
  obtain ⟨spaced, expired, after, fuel, _⟩ := before.spaced blank (Or.inr tabs) (by rintro _ ⟨⟩)
  have read : lexer.readToken = spaced.readStreamEnd := by
    rw [Lexer.readToken, expired]
    simp [bind, Except.bind, after.closeTo, Cursor.head?, after.here]
  let position := if spaced.position.column = 0 then spaced.position
    else { spaced.position with line := spaced.position.line + 1, column := 0 }
  have stopped : { spaced with cursor := { spaced.cursor with rest := [], position } }.Before 0 tokens [] :=
    { after with here := rfl, enough := Nat.zero_lt_of_lt after.enough }
  obtain ⟨removed, run, last, cursor, pending⟩ := stopped.removeKey
  have ends : spaced.readStreamEnd = .ok ({ removed with keyAllowed := false }.emit .streamEnd position position) :=
    bind_eq_ok.mpr ⟨removed, (congrArg Lexer.removeKey (stopped.closeTo (-1))).trans run, rfl⟩
  refine ⟨_, read.trans ends, ?_, ?_, ?_⟩
  · rw [← fuel]
    change removed.cursor.fuel = _
    rw [cursor]
  · have lone : removed.pending = [none] := by
      rw [pending, List.cons.injEq, List.drop_eq_nil_iff]
      exact ⟨rfl, Nat.le_of_eq stopped.pending⟩
    intro key member
    exact List.mem_singleton.mp (lone ▸ member)
  · rw [← last.queue]
    exact List.map_append

end Before

end Lexer

end Yaml

end ApiStyle
