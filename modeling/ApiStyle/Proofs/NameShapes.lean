import ApiStyle.Naming.Convention
import ApiStyle.Text.Split
import Mathlib.Computability.Language

/-! The names that conventions accept. They are documented as regular languages, they are read by a scanner that goes
through a name once, and they can be told by the words between separators. All three are the same. -/

namespace ApiStyle.Convention

open scoped Computability

/-- The texts of one character of a kind. -/
def oneOf (kind : Char → Prop) : Language Char := {text | ∃ character, kind character ∧ text = [character]}

/-- Small letters and digits, which words consist of. -/
def InWord (character : Char) : Prop := character.isLower ∨ character.isDigit

instance : DecidablePred InWord := fun _ => inferInstanceAs (Decidable (_ ∨ _))

structure IsWord (text : List Char) : Prop where
  nonempty : text ≠ []
  each : ∀ character ∈ text, InWord character

/-- Words with single separators between them. -/
def IsJoined (separator : Char) (text : List Char) : Prop := ∀ segment ∈ text.splitOn separator, IsWord segment

/-- The language `[a-z][a-z0-9]*(_[a-z0-9]+)*` for one separator. -/
def joined (separator : Char) : Language Char :=
  oneOf (·.isLower) * ((oneOf InWord)∗ * (oneOf (· = separator) * (oneOf InWord * (oneOf InWord)∗))∗)

/-- What a convention is documented to accept. -/
def pattern : Convention → Language Char
  | camelCase => oneOf (·.isLower) * (oneOf (·.isAlphanum))∗
  | underscoreCase => joined '_'
  | hyphenCase => joined '-'

def StartsSmall (text : List Char) : Prop := ∃ first rest, text = first :: rest ∧ first.isLower

variable {kind : Char → Prop} {separator : Char} {text : List Char}

theorem not_startsSmall_nil : ¬ StartsSmall [] := by
  rintro ⟨_, _, impossible, _⟩
  cases impossible

theorem startsSmall_cons {first : Char} {rest : List Char} : StartsSmall (first :: rest) ↔ first.isLower := by
  constructor
  · rintro ⟨_, _, same, small⟩
    obtain ⟨rfl, rfl⟩ := List.cons.inj same
    exact small
  · exact fun small => ⟨first, rest, rfl, small⟩

theorem mem_oneOf_mul {rest : Language Char} :
    text ∈ oneOf kind * rest ↔ ∃ first others, text = first :: others ∧ kind first ∧ others ∈ rest := by
  rw [Language.mem_mul]
  constructor
  · rintro ⟨_, ⟨first, suits, rfl⟩, others, member, rfl⟩
    exact ⟨first, others, rfl, suits, member⟩
  · rintro ⟨first, others, rfl, suits, member⟩
    exact ⟨[first], ⟨first, suits, rfl⟩, others, member, rfl⟩

theorem mem_oneOf_kstar : text ∈ (oneOf kind)∗ ↔ ∀ character ∈ text, kind character := by
  rw [Language.mem_kstar]
  constructor
  · rintro ⟨parts, rfl, each⟩ character member
    obtain ⟨part, inside, member⟩ := List.mem_flatten.mp member
    obtain ⟨only, suits, rfl⟩ := each part inside
    obtain rfl := List.mem_singleton.mp member
    exact suits
  · intro each
    refine ⟨text.map ([·]), by simp [← List.flatMap_def], ?_⟩
    intro part member
    obtain ⟨character, inside, rfl⟩ := List.mem_map.mp member
    exact ⟨character, each character inside, rfl⟩

theorem isWord_cons {first : Char} {rest : List Char} :
    IsWord (first :: rest) ↔ InWord first ∧ ∀ character ∈ rest, InWord character := by
  rw [← List.forall_mem_cons]
  exact ⟨IsWord.each, fun each => ⟨List.cons_ne_nil first rest, each⟩⟩

private theorem not_isWord_nil : ¬ IsWord [] := fun word => word.nonempty rfl

private theorem mem_word : text ∈ oneOf InWord * (oneOf InWord)∗ ↔ IsWord text := by
  rw [mem_oneOf_mul]
  constructor
  · rintro ⟨first, rest, rfl, begins, others⟩
    exact isWord_cons.mpr ⟨begins, mem_oneOf_kstar.mp others⟩
  · intro word
    obtain ⟨first, rest, rfl⟩ := List.exists_cons_of_ne_nil word.nonempty
    obtain ⟨begins, others⟩ := isWord_cons.mp word
    exact ⟨first, rest, rfl, begins, mem_oneOf_kstar.mpr others⟩

private theorem mem_further : text ∈ (oneOf (· = separator) * (oneOf InWord * (oneOf InWord)∗))∗ ↔
    ∃ words : List (List Char), (∀ word ∈ words, IsWord word) ∧ text = words.flatMap (separator :: ·) := by
  rw [Language.mem_kstar]
  constructor
  · rintro ⟨parts, rfl, each⟩
    induction parts with
    | nil => exact ⟨[], List.forall_mem_nil _, rfl⟩
    | cons part parts ih =>
      obtain ⟨here, later⟩ := List.forall_mem_cons.mp each
      obtain ⟨_, word, rfl, rfl, member⟩ := mem_oneOf_mul.mp here
      obtain ⟨words, all, same⟩ := ih later
      refine ⟨word :: words, List.forall_mem_cons.mpr ⟨mem_word.mp member, all⟩, ?_⟩
      rw [List.flatten_cons, same, List.flatMap_cons]
  · rintro ⟨words, all, rfl⟩
    refine ⟨words.map (separator :: ·), List.flatMap_def, ?_⟩
    intro part member
    obtain ⟨word, inside, rfl⟩ := List.mem_map.mp member
    exact mem_oneOf_mul.mpr ⟨separator, word, rfl, rfl, mem_word.mpr (all word inside)⟩

theorem isJoined_iff (apart : ¬ InWord separator) : IsJoined separator text ↔
    ∃ (first : List Char) (words : List (List Char)), IsWord first ∧ (∀ word ∈ words, IsWord word) ∧
      text = first ++ words.flatMap (separator :: ·) := by
  constructor
  · intro each
    obtain ⟨first, words, cut⟩ := List.exists_cons_of_ne_nil (List.splitOn_ne_nil separator text)
    rw [IsJoined, cut] at each
    obtain ⟨here, later⟩ := List.forall_mem_cons.mp each
    refine ⟨first, words, here, later, ?_⟩
    rw [← Text.intercalate_cons, ← cut, List.intercalate_splitOn]
  · rintro ⟨first, words, here, later, rfl⟩
    have each : ∀ word ∈ first :: words, IsWord word := List.forall_mem_cons.mpr ⟨here, later⟩
    rw [IsJoined, ← Text.intercalate_cons, List.splitOn_intercalate separator _ (List.cons_ne_nil first words)]
    · exact each
    · exact fun word member inside => apart ((each word member).each separator inside)

private theorem mem_joined (apart : ¬ InWord separator) :
    text ∈ joined separator ↔ StartsSmall text ∧ IsJoined separator text := by
  rw [joined, mem_oneOf_mul, isJoined_iff apart]
  constructor
  · rintro ⟨first, others, rfl, small, member⟩
    obtain ⟨rest, within, behind, further, rfl⟩ := Language.mem_mul.mp member
    obtain ⟨words, all, rfl⟩ := mem_further.mp further
    refine ⟨startsSmall_cons.mpr small, first :: rest, words, ?_, all, rfl⟩
    exact isWord_cons.mpr ⟨.inl small, mem_oneOf_kstar.mp within⟩
  · rintro ⟨starts, word, words, here, later, rfl⟩
    obtain ⟨first, rest, rfl⟩ := List.exists_cons_of_ne_nil here.nonempty
    refine ⟨first, _, rfl, startsSmall_cons.mp starts, Language.append_mem_mul ?_ ?_⟩
    · exact mem_oneOf_kstar.mpr (isWord_cons.mp here).2
    · exact mem_further.mpr ⟨words, later, rfl⟩

private theorem isWordChar_iff {character : Char} : isWordChar character = true ↔ InWord character := by
  rw [isWordChar, Bool.or_eq_true]
  rfl

theorem splitOn_cons {first : Char} (other : first ≠ separator) (text : List Char) : ∃ segment segments,
    text.splitOn separator = segment :: segments ∧ (first :: text).splitOn separator = (first :: segment) :: segments := by
  obtain ⟨segment, segments, cut⟩ := List.exists_cons_of_ne_nil (List.splitOn_ne_nil separator text)
  refine ⟨segment, segments, cut, ?_⟩
  rw [List.splitOn_cons_eq_if_modifyHead, if_neg (by simpa using other), cut]
  rfl

theorem splitOn_singleton {first : Char} (other : first ≠ separator) : [first].splitOn separator = [[first]] :=
  List.splitOn_eq_singleton (List.mem_singleton.not.mpr other.symm)

private theorem not_isJoined {first : Char} (strange : ¬ InWord first) : ¬ IsJoined separator (first :: text) := by
  intro each
  by_cases same : first = separator
  · subst first
    have empty : [] ∈ (separator :: text).splitOn separator := by
      simp [List.splitOn_cons_eq_if_modifyHead]
    exact (each [] empty).nonempty rfl
  · obtain ⟨segment, segments, _, cut⟩ := splitOn_cons same text
    have word : IsWord (first :: segment) := each _ (cut ▸ List.mem_cons_self)
    exact strange (isWord_cons.mp word).1

private theorem isJoined_cons {first second : Char} (apart : ¬ InWord separator) (begins : InWord first)
    (other : second ≠ separator) :
    IsJoined separator (first :: second :: text) ↔ IsJoined separator (second :: text) := by
  have differs : first ≠ separator := by
    rintro rfl
    exact apart begins
  obtain ⟨segment, segments, cut, longer⟩ := splitOn_cons differs (second :: text)
  obtain ⟨rest, others, _, shape⟩ := splitOn_cons other text
  rw [shape] at cut
  obtain ⟨rfl, rfl⟩ := List.cons.inj cut
  rw [IsJoined, IsJoined, longer, shape, List.forall_mem_cons, List.forall_mem_cons, isWord_cons, isWord_cons]
  simp [begins]

private theorem isJoined_separator {first : Char} (apart : ¬ InWord separator) (begins : InWord first) :
    IsJoined separator (first :: separator :: text) ↔ IsJoined separator text := by
  have differs : first ≠ separator := by
    rintro rfl
    exact apart begins
  have word : IsWord [first] := isWord_cons.mpr ⟨begins, List.forall_mem_nil _⟩
  have cut : (first :: separator :: text).splitOn separator = [first] :: text.splitOn separator := by
    rw [← List.singleton_append, List.splitOn_append_cons_self, splitOn_singleton differs, List.singleton_append]
  rw [IsJoined, cut, List.forall_mem_cons]
  exact and_iff_right word

/-- The scanner starts a word, or is inside one that any character of a word may have started. -/
theorem joinsWords_iff (apart : ¬ InWord separator) (text : List Char) :
    (joinsWords separator true text = true ↔ IsJoined separator text) ∧
      ∀ first, InWord first → (joinsWords separator false text = true ↔ IsJoined separator (first :: text)) := by
  have differs {character : Char} (word : InWord character) : character ≠ separator := by
    rintro rfl
    exact apart word
  -- Both states together: a separator leads from inside a word to the start of the next one.
  induction text with
  | nil =>
    constructor
    · simp [joinsWords, IsJoined, not_isWord_nil]
    · intro first begins
      simp [joinsWords, IsJoined, splitOn_singleton (differs begins), isWord_cons, begins]
  | cons second rest ih =>
    obtain ⟨starting, inside⟩ := ih
    by_cases word : InWord second
    · have step (start : Bool) : joinsWords separator start (second :: rest) = joinsWords separator false rest := by
        rw [joinsWords, if_pos (isWordChar_iff.mpr word)]
      constructor
      · rw [step, inside second word]
      · intro first begins
        rw [step, inside second word, isJoined_cons apart begins (differs word)]
    · have step (start : Bool) : joinsWords separator start (second :: rest) =
          (!start && second == separator && joinsWords separator true rest) := by
        rw [joinsWords, if_neg (isWordChar_iff.not.mpr word)]
      constructor
      · simp [step, not_isJoined word]
      · intro first begins
        rw [step]
        by_cases same : second = separator
        · subst second
          simp [isJoined_separator apart begins, starting]
        · rw [isJoined_cons apart begins same]
          simp [same, not_isJoined word]

theorem acceptsChars_joined {convention : Convention} (apart : ¬ InWord separator)
    (scans : ∀ rest, convention.acceptsTail rest = joinsWords separator false rest) :
    convention.acceptsChars text = true ↔ StartsSmall text ∧ IsJoined separator text := by
  cases text with
  | nil => simp [acceptsChars, not_startsSmall_nil]
  | cons first rest =>
    rw [acceptsChars, Bool.and_eq_true, scans, startsSmall_cons]
    apply and_congr_right
    intro small
    exact (joinsWords_iff apart rest).2 first (.inl small)

theorem underscore_apart : ¬ InWord '_' := by decide

theorem hyphen_apart : ¬ InWord '-' := by decide

theorem acceptsChars_underscoreCase :
    underscoreCase.acceptsChars text = true ↔ StartsSmall text ∧ IsJoined '_' text :=
  acceptsChars_joined underscore_apart fun _ => rfl

theorem acceptsChars_hyphenCase : hyphenCase.acceptsChars text = true ↔ StartsSmall text ∧ IsJoined '-' text :=
  acceptsChars_joined hyphen_apart fun _ => rfl

theorem isLarge_eq (character : Char) : isLarge character = character.isUpper := (Bool.decide_and ..).symm

private theorem isAlphanum_kinds (character : Char) :
    character.isAlphanum = (character.isUpper || character.isLower || character.isDigit) := rfl

private theorem isAlphanum_eq (character : Char) :
    (isWordChar character || isLarge character) = character.isAlphanum := by
  have word : isWordChar character = (character.isLower || character.isDigit) := rfl
  rw [isLarge_eq, word, isAlphanum_kinds, Bool.or_comm, Bool.or_assoc]

theorem isAlphanum_of_isLower {character : Char} (small : character.isLower) : character.isAlphanum := by
  simp [isAlphanum_kinds, small]

theorem acceptsChars_camelCase :
    camelCase.acceptsChars text = true ↔ StartsSmall text ∧ ∀ character ∈ text, character.isAlphanum := by
  cases text with
  | nil => simp [acceptsChars, not_startsSmall_nil]
  | cons first rest =>
    rw [acceptsChars, Bool.and_eq_true, acceptsTail, List.all_eq_true, startsSmall_cons, List.forall_mem_cons]
    apply and_congr_right
    intro small
    simp only [isAlphanum_eq, isAlphanum_of_isLower small, true_and]

/-- A name is accepted if it is in the language that the convention is documented by. -/
theorem acceptsChars_iff_pattern {convention : Convention} :
    convention.acceptsChars text = true ↔ text ∈ convention.pattern := by
  cases convention with
  | camelCase =>
    rw [acceptsChars_camelCase, pattern, mem_oneOf_mul]
    constructor
    · rintro ⟨⟨first, rest, rfl, small⟩, each⟩
      exact ⟨first, rest, rfl, small, mem_oneOf_kstar.mpr (List.forall_mem_cons.mp each).2⟩
    · rintro ⟨first, rest, rfl, small, member⟩
      refine ⟨startsSmall_cons.mpr small, List.forall_mem_cons.mpr ⟨?_, mem_oneOf_kstar.mp member⟩⟩
      exact isAlphanum_of_isLower small
  | underscoreCase => rw [acceptsChars_underscoreCase, pattern, mem_joined underscore_apart]
  | hyphenCase => rw [acceptsChars_hyphenCase, pattern, mem_joined hyphen_apart]

/-- The characters that a convention allows. -/
def Allows : Convention → Char → Prop
  | camelCase, character => character.isAlphanum
  | underscoreCase, character => InWord character ∨ character = '_'
  | hyphenCase, character => InWord character ∨ character = '-'

private theorem IsJoined.inWord_or (joined : IsJoined separator text) (apart : ¬ InWord separator) {character : Char}
    (member : character ∈ text) : InWord character ∨ character = separator := by
  obtain ⟨first, words, here, later, rfl⟩ := (isJoined_iff apart).mp joined
  rcases List.mem_append.mp member with member | member
  · exact .inl (here.each character member)
  · obtain ⟨word, inside, member⟩ := List.mem_flatMap.mp member
    rcases List.mem_cons.mp member with same | member
    · exact .inr same
    · exact .inl ((later word inside).each character member)

theorem allows_of_acceptsChars {convention : Convention} (accepted : convention.acceptsChars text) {character : Char}
    (member : character ∈ text) : convention.Allows character := by
  cases convention with
  | camelCase => exact (acceptsChars_camelCase.mp accepted).2 character member
  | underscoreCase => exact (acceptsChars_underscoreCase.mp accepted).2.inWord_or underscore_apart member
  | hyphenCase => exact (acceptsChars_hyphenCase.mp accepted).2.inWord_or hyphen_apart member

private theorem startsSmall_of_acceptsChars {convention : Convention} (accepted : convention.acceptsChars text) :
    StartsSmall text := by
  cases text with
  | nil => cases accepted
  | cons first rest => exact startsSmall_cons.mpr (Bool.and_eq_true_iff.mp accepted).1

private theorem inWord_of_allows {one other : Convention} (different : one ≠ other) {character : Char}
    (allowed : one.Allows character) (allowedToo : other.Allows character) : InWord character := by
  have plain {separator : Char} (strange : ¬ separator.isAlphanum) (known : character.isAlphanum)
      (either : InWord character ∨ character = separator) : InWord character := by
    apply either.resolve_right
    rintro rfl
    exact strange known
  have apart (either : InWord character ∨ character = '_') (eitherToo : InWord character ∨ character = '-') :
      InWord character := by
    rcases either with word | rfl
    · exact word
    · exact eitherToo.resolve_right (by decide)
  cases one with
  | camelCase =>
    cases other with
    | camelCase => exact absurd rfl different
    | underscoreCase => exact plain (by decide) allowed allowedToo
    | hyphenCase => exact plain (by decide) allowed allowedToo
  | underscoreCase =>
    cases other with
    | camelCase => exact plain (by decide) allowedToo allowed
    | underscoreCase => exact absurd rfl different
    | hyphenCase => exact apart allowed allowedToo
  | hyphenCase =>
    cases other with
    | camelCase => exact plain (by decide) allowedToo allowed
    | underscoreCase => exact apart allowedToo allowed
    | hyphenCase => exact absurd rfl different

theorem IsWord.splitOn (word : IsWord text) (apart : ¬ InWord separator) : text.splitOn separator = [text] :=
  List.splitOn_eq_singleton fun inside => apart (word.each separator inside)

private theorem IsJoined.append {word : List Char} (joined : IsJoined separator text) (apart : ¬ InWord separator)
    (isWord : IsWord word) : IsJoined separator (text ++ separator :: word) := by
  rw [IsJoined, List.splitOn_append_cons_self, isWord.splitOn apart, List.forall_mem_append]
  exact ⟨joined, List.forall_mem_singleton.mpr isWord⟩

private theorem StartsSmall.append (starts : StartsSmall text) (more : List Char) : StartsSmall (text ++ more) := by
  obtain ⟨first, rest, rfl, small⟩ := starts
  exact startsSmall_cons.mpr small

theorem acceptsChars_of_inWord (starts : StartsSmall text) (plain : ∀ character ∈ text, InWord character)
    (convention : Convention) : convention.acceptsChars text := by
  have word : IsWord text := by
    obtain ⟨first, rest, rfl, _⟩ := starts
    exact ⟨List.cons_ne_nil first rest, plain⟩
  have joined {separator : Char} (apart : ¬ InWord separator) : IsJoined separator text := by
    rw [IsJoined, word.splitOn apart]
    exact List.forall_mem_singleton.mpr word
  cases convention with
  | camelCase =>
    refine acceptsChars_camelCase.mpr ⟨starts, fun character member => ?_⟩
    rcases plain character member with letter | digit
    · exact isAlphanum_of_isLower letter
    · simp [isAlphanum_kinds, digit]
  | underscoreCase => exact acceptsChars_underscoreCase.mpr ⟨starts, joined underscore_apart⟩
  | hyphenCase => exact acceptsChars_hyphenCase.mpr ⟨starts, joined hyphen_apart⟩

/-- An underscore for a hyphen. -/
def underscored (character : Char) : Char := if character = '-' then '_' else character

private theorem joinsWords_underscored (starting : Bool) (plain : '_' ∉ text) :
    joinsWords '-' starting text = joinsWords '_' starting (text.map underscored) := by
  induction text generalizing starting with
  | nil => rfl
  | cons first rest ih =>
    obtain ⟨differs, plain⟩ := not_or.mp (List.mem_cons.not.mp plain)
    have later := fun start => ih start plain
    by_cases hyphen : first = '-'
    · subst first
      simp [joinsWords, underscored, isWordChar, isSmall, isDigit, later]
    · have stops : (first == '-') = false := beq_false_of_ne hyphen
      have stopsToo : (first == '_') = false := beq_false_of_ne (Ne.symm differs)
      simp [joinsWords, underscored, hyphen, stops, stopsToo, later]

private theorem acceptsChars_underscored (plain : '_' ∉ text) :
    hyphenCase.acceptsChars text = underscoreCase.acceptsChars (text.map underscored) := by
  cases text with
  | nil => rfl
  | cons first rest =>
    have begins : isSmall (underscored first) = isSmall first := by
      by_cases hyphen : first = '-'
      · subst first
        decide
      · rw [underscored, if_neg hyphen]
    have tail := joinsWords_underscored false (not_or.mp (List.mem_cons.not.mp plain)).2
    rw [List.map_cons, acceptsChars, acceptsChars, begins, acceptsTail, acceptsTail, tail]

/-- Hyphen-case is underscore_case with other separators, so it has no underscores. -/
theorem acceptsChars_hyphenCase_iff : hyphenCase.acceptsChars text = true ↔
    '_' ∉ text ∧ underscoreCase.acceptsChars (text.map underscored) = true := by
  constructor
  · intro accepted
    have plain : '_' ∉ text := by
      intro member
      have allowed : InWord '_' ∨ '_' = '-' := allows_of_acceptsChars accepted member
      exact absurd allowed (by decide)
    exact ⟨plain, acceptsChars_underscored plain ▸ accepted⟩
  · rintro ⟨plain, accepted⟩
    exact (acceptsChars_underscored plain).trans accepted

/-- What two conventions have in common is one word. -/
theorem acceptsChars_both_iff {one other : Convention} (different : one ≠ other) :
    one.acceptsChars text = true ∧ other.acceptsChars text = true ↔
      StartsSmall text ∧ ∀ character ∈ text, InWord character := by
  constructor
  · rintro ⟨accepted, acceptedToo⟩
    refine ⟨startsSmall_of_acceptsChars accepted, fun character member => ?_⟩
    exact inWord_of_allows different (allows_of_acceptsChars accepted member)
      (allows_of_acceptsChars acceptedToo member)
  · rintro ⟨starts, plain⟩
    exact ⟨acceptsChars_of_inWord starts plain one, acceptsChars_of_inWord starts plain other⟩

theorem StartsSmall.joined_append {word : List Char} (apart : ¬ InWord separator) (isWord : IsWord word)
    (accepted : StartsSmall text ∧ IsJoined separator text) :
    StartsSmall (text ++ separator :: word) ∧ IsJoined separator (text ++ separator :: word) :=
  ⟨accepted.1.append _, accepted.2.append apart isWord⟩

/-- Each convention accepts the language that it is documented by. In other words: camelCase accepts letters and digits
behind a small letter, underscore_case accepts words with underscores between them if the first starts with a small
letter, hyphen-case accepts the same with hyphens, and what two of them accept is one such word. -/
theorem accepts_documented_language (name : String) :
    (∀ convention : Convention, convention.accepts name ↔ name.toList ∈ convention.pattern) ∧
    (camelCase.accepts name ↔
      name ≠ "" ∧ StartsSmall name.toList ∧ ∀ character ∈ name.toList, character.isAlphanum) ∧
    (underscoreCase.accepts name ↔
      StartsSmall name.toList ∧ ∀ segment ∈ name.toList.splitOn '_', IsWord segment) ∧
    (hyphenCase.accepts name ↔ '_' ∉ name.toList ∧ underscoreCase.accepts (name.map underscored)) ∧
    (∀ one other : Convention, one ≠ other → (one.accepts name ∧ other.accepts name ↔
      StartsSmall name.toList ∧ ∀ character ∈ name.toList, InWord character)) ∧
    ∀ segment : String, IsWord segment.toList →
      (underscoreCase.accepts name → underscoreCase.accepts (name ++ "_" ++ segment)) ∧
      (hyphenCase.accepts name → hyphenCase.accepts (name ++ "-" ++ segment)) := by
  refine ⟨fun _ => acceptsChars_iff_pattern, ?_, acceptsChars_underscoreCase, ?_, ?_, ?_⟩
  · rw [accepts, acceptsChars_camelCase]
    constructor
    · rintro ⟨starts, each⟩
      refine ⟨?_, starts, each⟩
      rintro rfl
      exact not_startsSmall_nil starts
    · exact And.right
  · rw [accepts, accepts, String.toList_map]
    exact acceptsChars_hyphenCase_iff
  · exact fun _ _ different => acceptsChars_both_iff different
  · intro segment word
    rw [accepts, accepts, accepts, accepts, String.toList_append, String.toList_append, String.toList_append,
      String.toList_append, List.append_assoc, List.append_assoc]
    constructor
    · intro accepted
      apply acceptsChars_underscoreCase.mpr
      exact StartsSmall.joined_append underscore_apart word (acceptsChars_underscoreCase.mp accepted)
    · intro accepted
      apply acceptsChars_hyphenCase.mpr
      exact StartsSmall.joined_append hyphen_apart word (acceptsChars_hyphenCase.mp accepted)

/-- A line end is no exception: it stands in no word. -/
example : ∀ convention : Convention, convention.accepts "pets\n" = false := by
  intro convention
  cases convention <;> decide

end ApiStyle.Convention
