import ApiStyle.Proofs.FlowTokens

/-! Portable JSON text as the tokens of its tree. -/

namespace ApiStyle

namespace Json

open Yaml (Token)

/-- The comma before every entry but the first. -/
def separator (first : Bool) : List Token := if first then [] else [.flowEntry]

def joinedTokens : Bool → List (List Token) → List Token
  | _, [] => []
  | first, entry :: entries => separator first ++ (entry ++ joinedTokens false entries)

theorem joinedTokens_false {entries : List (List Token)} (some : entries ≠ []) :
    joinedTokens false entries = .flowEntry :: joinedTokens true entries := by
  cases entries with
  | nil => exact absurd rfl some
  | cons => rfl

mutual

def tokens : Json → List Token
  | .null => [.scalar .plain "null"]
  | .bool value => [.scalar .plain (String.ofList (boolText value))]
  | .number value => [.scalar .plain (String.ofList value.text)]
  | .string value => [.scalar .quoted value]
  | .array items => .flowSequence :: (itemTokens true items ++ [.flowSequenceEnd])
  | .object members => .flowMapping :: (memberTokens true members ++ [.flowMappingEnd])

def itemTokens : Bool → List Json → List Token
  | _, [] => []
  | first, item :: items => separator first ++ (item.tokens ++ itemTokens false items)

def memberTokens : Bool → List (String × Json) → List Token
  | _, [] => []
  | first, (key, value) :: members =>
    separator first ++ (.key :: .scalar .quoted key :: .value :: (value.tokens ++ memberTokens false members))

end

/-- A tree that stands between brackets. -/
def isContainer : Json → Bool
  | .array _ => true
  | .object _ => true
  | _ => false

def memberToken (member : String × Json) : List Token := .key :: .scalar .quoted member.1 :: .value :: member.2.tokens

theorem itemTokens_eq (first : Bool) (items : List Json) :
    itemTokens first items = joinedTokens first (items.map tokens) := by
  induction items generalizing first with
  | nil => rfl
  | cons item items ih => rw [itemTokens, ih, List.map_cons, joinedTokens]

theorem memberTokens_eq (first : Bool) (members : List (String × Json)) :
    memberTokens first members = joinedTokens first (members.map memberToken) := by
  induction members generalizing first with
  | nil => rfl
  | cons member members ih => rw [memberTokens, ih, List.map_cons, joinedTokens, memberToken]; rfl

private theorem length_joinedTokens {α : Type} {added : α → List Token} {closing : Char} {entries : List α}
    {text : List Char}
    (listed : Listed (fun entry text => (added entry).length ≤ text.length) closing entries text) :
    (joinedTokens true (entries.map added)).length < text.length := by
  induction listed with
  | last entry blank =>
    simp only [List.map_cons, List.map_nil, joinedTokens, separator, List.length_append, List.length_cons]
    simp only [if_true, List.length_nil]
    omega
  | @next entry entries text before after rest first blank blankToo listed ih =>
    have some : entries.map added ≠ [] := by cases listed <;> simp
    simp only [List.map_cons, joinedTokens, separator, joinedTokens_false some, List.length_append, List.length_cons]
    simp only [if_true, List.length_nil]
    omega

private theorem length_memberToken {member : String × Json} {text : List Char}
    (keyed : Keyed (fun tree text => tree.tokens.length ≤ text.length) member text) :
    (memberToken member).length ≤ text.length := by
  obtain ⟨quotes, _, _, _, _, length⟩ := keyed
  have := quotes.length
  simp only [memberToken, List.length_append, List.length_cons]
  omega

theorem Portable.length_tokens {tree : Json} {text : List Char} (portable : Portable tree text) :
    tree.tokens.length ≤ text.length := by
  refine Portable.induct (motive := fun tree text => tree.tokens.length ≤ text.length) ?null ?bool ?number ?string
    ?noItems ?items ?noMembers ?members portable
  case null => decide
  case bool =>
    intro value
    cases value <;> decide
  case number =>
    intro value _
    obtain ⟨sign, digit, rest, parts, _⟩ := exists_digit value
    simp only [tokens, parts, List.length_append, List.length_cons, List.length_nil]
    omega
  case string =>
    intro value text quotes _
    have := quotes.length
    simp only [tokens, List.length_cons, List.length_nil]
    omega
  case noItems =>
    intro gap _
    simp only [tokens, itemTokens, List.length_append, List.length_cons, List.length_nil]
    omega
  case items =>
    intro items gap text _ listed
    have length := length_joinedTokens listed
    simp only [tokens, itemTokens_eq, List.length_append, List.length_cons, List.length_nil]
    omega
  case noMembers =>
    intro gap _
    simp only [tokens, memberTokens, List.length_append, List.length_cons, List.length_nil]
    omega
  case members =>
    intro members gap text _ listed
    have length := length_joinedTokens (listed.mono fun _ _ => length_memberToken)
    simp only [tokens, memberTokens_eq, List.length_append, List.length_cons, List.length_nil]
    omega

end Json

namespace Yaml

open Json (Portable Listed Keyed joinedTokens)

namespace Lexer

/-- Reading a text in a flow collection leads to what ends the entry, with the tokens of the text. -/
def Scans (keyed : Bool) (added : List Token) (text : List Char) : Prop :=
  ∀ ⦃lexer : Lexer⦄ ⦃depth : Nat⦄ ⦃tokens : List Token⦄ ⦃gap blanks rest : List Char⦄ ⦃stop : Char⦄,
    Json.Blank gap → Json.Blank blanks → Stops stop → (keyed = true → lexer.keyAllowed = true) →
      lexer.Before (depth + 1) tokens (gap ++ (text ++ (blanks ++ stop :: rest))) →
        ∃ next left, lexer.Passes next ∧ Json.Blank left ∧
          next.Before (depth + 1) (tokens ++ added) (left ++ stop :: rest)

/-- Reading a text leads out of a flow collection, with the tokens of the text. -/
def Leaves (added : List Token) (text : List Char) : Prop :=
  ∀ ⦃lexer : Lexer⦄ ⦃depth : Nat⦄ ⦃tokens : List Token⦄ ⦃gap rest : List Char⦄,
    Json.Blank gap → lexer.keyAllowed = true → lexer.Before (depth + 1) tokens (gap ++ (text ++ rest)) →
      ∃ next, lexer.Passes next ∧ next.Before depth (tokens ++ added) rest

/-- Reading a text leads through a whole flow collection, which may stand alone. -/
def Crosses (added : List Token) (text : List Char) : Prop :=
  ∀ ⦃lexer : Lexer⦄ ⦃depth : Nat⦄ ⦃tokens : List Token⦄ ⦃gap rest : List Char⦄,
    Json.Blank gap → 0 < depth ∨ '\t' ∉ gap → lexer.Before depth tokens (gap ++ (text ++ rest)) →
      ∃ next, lexer.Passes next ∧ next.Before depth (tokens ++ added) rest

private theorem Crosses.scans {added : List Token} {text : List Char} (crosses : Crosses added text) (keyed : Bool) :
    Scans keyed added text := by
  intro lexer depth tokens gap blanks rest stop blank blanksToo _ _ before
  obtain ⟨next, passes, after⟩ := crosses blank (Or.inl (Nat.succ_pos _)) before
  exact ⟨next, blanks, passes, blanksToo, after⟩

theorem Leaves.crosses {bracket : Char} {token : Token} {gap text : List Char} {added : List Token}
    (leaves : Leaves added text)
    (opening : bracket = '[' ∧ token = .flowSequence ∨ bracket = '\x7b' ∧ token = .flowMapping)
    (blank : Json.Blank gap) : Crosses (token :: added) (bracket :: (gap ++ text)) := by
  intro lexer depth tokens outer rest outerBlank tabs before
  obtain ⟨inner, passes, inside, allowed⟩ := before.opens opening outerBlank tabs
  obtain ⟨next, passesToo, after⟩ := leaves blank allowed (inside.of_eq (List.append_assoc _ _ _))
  exact ⟨next, passes.trans passesToo, by simpa using after⟩

section

variable {bracket : Char} {token : Token}

theorem Leaves.empty (closing : bracket = ']' ∧ token = .flowSequenceEnd ∨ bracket = '\x7d' ∧ token = .flowMappingEnd) :
    Leaves [token] [bracket] :=
  fun _ _ _ _ _ blank _ before => before.closes closing blank

theorem Leaves.listed {α : Type} {keyed : Bool} {added : α → List Token} {entries : List α} {text : List Char}
    (closing : bracket = ']' ∧ token = .flowSequenceEnd ∨ bracket = '\x7d' ∧ token = .flowMappingEnd)
    (listed : Listed (fun entry => Scans keyed (added entry)) bracket entries text) :
    Leaves (joinedTokens true (entries.map added) ++ [token]) text := by
  have stops : Stops bracket := by
    rcases closing with ⟨rfl, _⟩ | ⟨rfl, _⟩
    · exact Or.inr (Or.inl rfl)
    · exact Or.inr (Or.inr rfl)
  induction listed with
  | last scans blank =>
    intro lexer depth tokens gap rest gapBlank allowed before
    simp only [List.append_assoc, List.singleton_append] at before
    obtain ⟨behind, left, passes, leftBlank, after⟩ := scans gapBlank blank stops (fun _ => allowed) before
    obtain ⟨next, passesToo, after⟩ := after.closes closing leftBlank
    exact ⟨next, passes.trans passesToo, by simpa [joinedTokens, Json.separator] using after⟩
  | @next entry entries text before behind rest scans blank blankBehind listed ih =>
    intro lexer depth tokens gap rest gapBlank allowed before
    simp only [List.append_assoc, List.cons_append] at before
    obtain ⟨_, left, passes, leftBlank, after⟩ := scans gapBlank blank (Or.inl rfl) (fun _ => allowed) before
    obtain ⟨_, passesComma, after, allowed⟩ := after.comma leftBlank
    obtain ⟨next, passesRest, after⟩ := ih blankBehind allowed after
    refine ⟨next, (passes.trans passesComma).trans passesRest, ?_⟩
    have some : entries ≠ [] := by cases listed <;> simp
    simpa [joinedTokens, Json.joinedTokens_false, some, Json.separator] using after

end

private theorem scans_member {member : String × Json} {text : List Char}
    (keyed : Keyed (fun tree => Scans false tree.tokens) member text) : Scans true (Json.memberToken member) text := by
  obtain ⟨quotes, portable, short, line, blankValue, scans⟩ := keyed
  intro lexer depth tokens gap blanks rest stop blank blanksToo stops allowed before
  simp only [List.append_assoc, List.cons_append] at before
  obtain ⟨_, position, passes, after, place, pending⟩ := before.string quotes portable blank
  rw [List.length_append] at short
  obtain ⟨_, passesColon, after⟩ := after.colon line short place (pending (allowed rfl))
  obtain ⟨next, left, passesValue, blankLeft, after⟩ := scans blankValue blanksToo stops nofun after
  refine ⟨next, left, (passes.trans passesColon).trans passesValue, blankLeft, ?_⟩
  simpa [Json.memberToken] using after

theorem scans_plain {text : List Char} (plain : IsPlain text) :
    Scans false [.scalar .plain (String.ofList text)] text := by
  intro lexer depth tokens gap blanks rest stop blank blanksToo stops _ before
  obtain ⟨next, passes, after⟩ := before.plain plain blank blanksToo stops
  exact ⟨next, [], passes, .nil, after⟩

private theorem isPlain_numeral (numeral : Numeral) : IsPlain numeral.text := by
  obtain ⟨sign, digit, rest, parts, signed⟩ := Json.exists_digit numeral
  have first : ∀ digit : Digit, digit.char ≠ '-' ∧ digit.char ≠ '.' := by decide
  exact ⟨Json.isBare_numeral numeral, sign, digit.char, rest, parts, signed, first digit⟩

theorem crosses_items {items : List Json} {gap text : List Char} (blank : Json.Blank gap)
    (listed : Listed (fun tree => Scans false tree.tokens) ']' items text) :
    Crosses (Json.array items).tokens ('[' :: (gap ++ text)) := by
  rw [Json.tokens, Json.itemTokens_eq]
  exact (Leaves.listed (Or.inl ⟨rfl, rfl⟩) listed).crosses (Or.inl ⟨rfl, rfl⟩) blank

theorem crosses_members {members : List (String × Json)} {gap text : List Char} (blank : Json.Blank gap)
    (listed : Listed (Keyed fun tree => Scans false tree.tokens) '\x7d' members text) :
    Crosses (Json.object members).tokens ('\x7b' :: (gap ++ text)) := by
  rw [Json.tokens, Json.memberTokens_eq]
  exact (Leaves.listed (Or.inr ⟨rfl, rfl⟩) (listed.mono fun _ _ => scans_member)).crosses (Or.inr ⟨rfl, rfl⟩) blank

theorem crosses_noItems {gap : List Char} (blank : Json.Blank gap) :
    Crosses (Json.array []).tokens ('[' :: (gap ++ [']'])) :=
  (Leaves.empty (Or.inl ⟨rfl, rfl⟩)).crosses (Or.inl ⟨rfl, rfl⟩) blank

theorem crosses_noMembers {gap : List Char} (blank : Json.Blank gap) :
    Crosses (Json.object []).tokens ('\x7b' :: (gap ++ ['\x7d'])) :=
  (Leaves.empty (Or.inr ⟨rfl, rfl⟩)).crosses (Or.inr ⟨rfl, rfl⟩) blank

private theorem scans_portable {tree : Json} {text : List Char} (portable : Portable tree text) :
    Scans false tree.tokens text := by
  refine Portable.induct (motive := fun tree => Scans false tree.tokens) ?null ?bool ?number ?string ?noItems ?items
    ?noMembers ?members portable
  case null => exact scans_plain ⟨by decide, [], 'n', _, rfl, Or.inl rfl, by decide, by decide⟩
  case bool =>
    intro value
    cases value
    · exact scans_plain ⟨by decide, [], 'f', _, rfl, Or.inl rfl, by decide, by decide⟩
    · exact scans_plain ⟨by decide, [], 't', _, rfl, Or.inl rfl, by decide, by decide⟩
  case number => exact fun value _ => scans_plain (isPlain_numeral value)
  case string =>
    intro value text quotes portable lexer depth tokens gap blanks rest stop blank blanksToo stops _ before
    obtain ⟨next, _, passes, after, _⟩ := before.string quotes portable blank
    exact ⟨next, blanks, passes, blanksToo, by simpa [Json.tokens] using after⟩
  case noItems => exact fun _ blank => (crosses_noItems blank).scans false
  case items => exact fun _ _ _ blank listed => (crosses_items blank listed).scans false
  case noMembers => exact fun _ blank => (crosses_noMembers blank).scans false
  case members => exact fun _ _ _ blank listed => (crosses_members blank listed).scans false

/-- A container may be all that a text holds. -/
theorem yields_portable {tree : Json} {text gap blanks : List Char} (portable : Portable tree text)
    (container : tree.isContainer = true) (blank : Json.Blank gap) (tabs : '\t' ∉ gap) (blanksToo : Json.Blank blanks)
    (tabsToo : '\t' ∉ blanks) : (ofText (gap ++ (text ++ blanks))).Yields (tree.tokens ++ [.streamEnd]) := by
  have crosses : Crosses tree.tokens text := by
    cases portable with
    | null | bool | number | string => cases container
    | noItems blank => exact crosses_noItems blank
    | items blank listed => exact crosses_items blank (listed.mono fun _ _ => scans_portable)
    | noMembers blank => exact crosses_noMembers blank
    | members blank listed =>
      refine crosses_members blank (listed.mono fun _ _ => ?_)
      rintro ⟨quotes, plain, short, line, after, value⟩
      exact .mk quotes plain short line after (scans_portable value)
  obtain ⟨next, passes, after⟩ := crosses blank (Or.inr tabs) (.ofText _)
  obtain ⟨last, run, fuel, done, queue⟩ := after.finish blanksToo tabsToo
  obtain ⟨count, reads, shorter⟩ := passes
  refine ⟨fun key member => ?_, 1 + count, last, reads.trans (.step run fuel .refl), ?_, done, queue⟩
  · cases List.mem_singleton.mp member
  · change _ ≤ (gap ++ (text ++ blanks)).length + 1
    change _ ≤ (gap ++ (text ++ blanks)).length at shorter
    omega

end Lexer

end Yaml

end ApiStyle
