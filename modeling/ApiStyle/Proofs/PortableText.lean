import ApiStyle.Proofs.PortableNumbers

/-! JSON texts that YAML spells in the same way. They may be laid out in any way as long as a colon follows its key on
the same line and not too late. Strings may be escaped in any way, except that no pair of escapes stands for one
character, and what is not escaped in them may occur within a line of YAML. -/

namespace ApiStyle

namespace Json

/-- A character that a quoted scalar may hold within a line. -/
def isPortable (character : Char) : Bool := Yaml.isAllowed character && !Yaml.isBreak character

def IsPortable (text : List Char) : Prop := ∀ character ∈ text, isPortable character = true

instance (text : List Char) : Decidable (IsPortable text) := List.decidableBAll _ text

/-- Blanks that do not end a line. -/
def Inline (gap : List Char) : Prop := ∀ character ∈ gap, Yaml.isBlank character = true

inductive Keyed (portable : Json → List Char → Prop) : String × Json → List Char → Prop
  | mk {key value label before after text} : Quotes key.toList label → IsPortable label →
      (label ++ before).length ≤ 1024 → Inline before → Blank after → portable value text →
      Keyed portable (key, value) (label ++ (before ++ ':' :: (after ++ text)))

/-- A text that spells a tree in a layout that is the same in both formats. -/
inductive Portable : Json → List Char → Prop
  | null : Portable .null "null".toList
  | bool {value} : Portable (.bool value) (boolText value)
  | number {value} : value.IsPortable → Portable (.number value) value.text
  | string {value text} : Quotes value.toList text → IsPortable text → Portable (.string value) text
  | noItems {gap} : Blank gap → Portable (.array []) ('[' :: (gap ++ [']']))
  | items {items gap text} : Blank gap → Listed Portable ']' items text → Portable (.array items) ('[' :: (gap ++ text))
  | noMembers {gap} : Blank gap → Portable (.object []) ('\x7b' :: (gap ++ ['\x7d']))
  | members {members gap text} : Blank gap → Listed (Keyed Portable) '\x7d' members text →
      Portable (.object members) ('\x7b' :: (gap ++ text))

theorem Portable.induct {motive : Json → List Char → Prop} (null : motive .null "null".toList)
    (bool : ∀ value, motive (.bool value) (boolText value))
    (number : ∀ value : Numeral, value.IsPortable → motive (.number value) value.text)
    (string : ∀ (value : String) text, Quotes value.toList text → IsPortable text → motive (.string value) text)
    (noItems : ∀ gap, Blank gap → motive (.array []) ('[' :: (gap ++ [']'])))
    (items : ∀ items gap text, Blank gap → Listed motive ']' items text → motive (.array items) ('[' :: (gap ++ text)))
    (noMembers : ∀ gap, Blank gap → motive (.object []) ('\x7b' :: (gap ++ ['\x7d'])))
    (members : ∀ members gap text, Blank gap → Listed (Keyed motive) '\x7d' members text →
      motive (.object members) ('\x7b' :: (gap ++ text)))
    {tree : Json} {text : List Char} (portable : Portable tree text) : motive tree text :=
  @Portable.rec (fun tree text _ => motive tree text) (fun items text _ => Listed motive ']' items text)
    (fun members text _ => Listed (Keyed motive) '\x7d' members text) (fun member text _ => Keyed motive member text)
    null (bool _) (number _) (string _ _) (noItems _) (fun blank _ => items _ _ _ blank) (noMembers _)
    (fun blank _ => members _ _ _ blank)
    (fun _ blank holds => .last holds blank) (fun _ before after _ holds rest => .next holds before after rest)
    (fun _ blank holds => .last holds blank) (fun _ before after _ holds rest => .next holds before after rest)
    (fun quotes plain short line after _ holds => .mk quotes plain short line after holds) tree text portable

theorem Listed.mono {α : Type} {spells other : α → List Char → Prop} {closing : Char} {entries : List α}
    {text : List Char} (listed : Listed spells closing entries text)
    (each : ∀ entry text, spells entry text → other entry text) : Listed other closing entries text := by
  induction listed with
  | last entry blank => exact .last (each _ _ entry) blank
  | next entry before after _ ih => exact .next (each _ _ entry) before after ih

theorem Listed.exists_text {α : Type} {spells : α → List Char → Prop} {closing : Char} {entries : List α}
    {text : List Char}
    (listed : Listed spells closing entries text) {entry : α} (member : entry ∈ entries) :
    ∃ text, spells entry text := by
  induction listed with
  | last first blank =>
    obtain rfl := List.mem_singleton.mp member
    exact ⟨_, first⟩
  | next first before after _ ih =>
    rcases List.mem_cons.mp member with rfl | member
    · exact ⟨_, first⟩
    · exact ih member

theorem Inline.blank {gap : List Char} (line : Inline gap) : Blank gap := by
  intro character member
  have blank := line character member
  simp only [Yaml.isBlank, Bool.or_eq_true, beq_iff_eq] at blank
  rcases blank with rfl | rfl <;> rfl

theorem Portable.spells {tree : Json} {text : List Char} (portable : Portable tree text) : Spells tree text := by
  have members {members : List (String × Json)} {text : List Char}
      (listed : Listed (Keyed Spells) '\x7d' members text) :
      Listed (Labelled Spells) '\x7d' members text :=
    listed.mono fun _ _ => fun | .mk quotes _ _ line after spells => .mk quotes line.blank after spells
  refine Portable.induct ?null ?bool ?number ?string ?noItems ?items ?noMembers ?members portable
  case null => exact .null
  case bool => exact fun _ => .bool
  case number => exact fun _ _ => .number
  case string => exact fun _ _ quotes _ => .string quotes
  case noItems => exact fun _ blank => .noItems blank
  case items => exact fun _ _ _ blank listed => .items blank listed
  case noMembers => exact fun _ blank => .noMembers blank
  case members => exact fun _ _ _ blank listed => .members blank (members listed)

/-- A character of the words and numbers of JSON. -/
def isBare (character : Char) : Bool :=
  (48 ≤ character.toNat && character.toNat ≤ 57) || (97 ≤ character.toNat && character.toNat ≤ 122)
    || character == '.' || character == '+' || character == '-'

def IsBare (text : List Char) : Prop := ∀ character ∈ text, isBare character = true

instance (text : List Char) : Decidable (IsBare text) := List.decidableBAll _ text

theorem isBare_digit : ∀ digit : Digit, isBare digit.char = true := by decide

private theorem isBare_toDigits (value : Nat) : IsBare (Nat.toDigits 10 value) := by
  rw [← Digit.map_char_ofNat]
  intro character member
  obtain ⟨digit, _, rfl⟩ := List.mem_map.mp member
  exact isBare_digit digit

theorem isBare_numeral (numeral : Numeral) : IsBare numeral.text := by
  have exponent : IsBare ((numeral.exponent.map Numeral.exponentText).getD []) := by
    cases numeral.exponent with
    | none => exact List.forall_mem_nil _
    | some power =>
      refine List.forall_mem_cons.mpr ⟨rfl, List.forall_mem_cons.mpr ⟨?_, isBare_toDigits _⟩⟩
      split <;> rfl
  have fraction : IsBare (if numeral.fraction.isEmpty then [] else '.' :: numeral.fraction.map Digit.char) := by
    split
    · exact List.forall_mem_nil _
    · refine List.forall_mem_cons.mpr ⟨rfl, fun character member => ?_⟩
      obtain ⟨digit, _, rfl⟩ := List.mem_map.mp member
      exact isBare_digit digit
  have sign : IsBare (if numeral.negative then ['-'] else []) := by
    split <;> decide
  have parts := List.forall_mem_append.mpr ⟨sign, isBare_toDigits numeral.whole⟩
  exact List.forall_mem_append.mpr ⟨List.forall_mem_append.mpr ⟨parts, fraction⟩, exponent⟩

theorem exists_digit (numeral : Numeral) : ∃ sign digit rest, numeral.text = sign ++ Digit.char digit :: rest ∧
    (sign = [] ∨ sign = ['-']) := by
  obtain ⟨digit, others, written⟩ := Draft.toDigits_eq_cons numeral.whole
  simp only [Numeral.text, written, List.append_assoc, List.cons_append]
  refine ⟨_, digit, _, rfl, ?_⟩
  cases numeral.negative
  · exact Or.inl rfl
  · exact Or.inr rfl

/-- All characters of a text may occur in YAML. -/
def Allowed (text : List Char) : Prop := ∀ character ∈ text, Yaml.isAllowed character = true

instance (text : List Char) : Decidable (Allowed text) := List.decidableBAll _ text

namespace Allowed

theorem append {one two : List Char} (first : Allowed one) (second : Allowed two) : Allowed (one ++ two) :=
  List.forall_mem_append.mpr ⟨first, second⟩

theorem cons {character : Char} {text : List Char} (first : Yaml.isAllowed character = true) (rest : Allowed text) :
    Allowed (character :: text) :=
  List.forall_mem_cons.mpr ⟨first, rest⟩

theorem blank {gap : List Char} (blank : Blank gap) : Allowed gap := by
  intro character member
  have isBlank := blank character member
  simp only [Draft.isBlank, Bool.or_eq_true, beq_iff_eq] at isBlank
  rcases isBlank with ((rfl | rfl) | rfl) | rfl <;> rfl

private theorem quoted {text : List Char} (portable : IsPortable text) : Allowed text := fun character member =>
  (Bool.and_eq_true_iff.mp (portable character member)).1

private theorem bare {text : List Char} (bare : IsBare text) : Allowed text := fun character member => by
  have inside := bare character member
  simp only [isBare, Bool.or_eq_true, Bool.and_eq_true, decide_eq_true_eq, beq_iff_eq] at inside
  rcases inside with (((digit | letter) | rfl) | rfl) | rfl
  · simp only [Yaml.isAllowed, Bool.or_eq_true, Bool.and_eq_true, decide_eq_true_eq]
    omega
  · simp only [Yaml.isAllowed, Bool.or_eq_true, Bool.and_eq_true, decide_eq_true_eq]
    omega
  all_goals rfl

private theorem listed {α : Type} {entries : List α} {text : List Char} {closing : Char}
    (closes : Yaml.isAllowed closing = true) (listed : Listed (fun _ => Allowed) closing entries text) :
    Allowed text := by
  induction listed with
  | last entry gap => exact entry.append ((blank gap).append (.cons closes (List.forall_mem_nil _)))
  | next entry before after _ ih => exact entry.append ((blank before).append (.cons rfl ((blank after).append ih)))

end Allowed

theorem Portable.allowed {tree : Json} {text : List Char} (portable : Portable tree text) : Allowed text := by
  have keyed {member : String × Json} {text : List Char} : Keyed (fun _ => Allowed) member text → Allowed text
    | .mk _ plain _ line after value =>
      .append (.quoted plain) (.append (.blank line.blank) (.cons rfl (.append (.blank after) value)))
  have members {members : List (String × Json)} {text : List Char}
      (listed : Listed (Keyed fun _ => Allowed) '\x7d' members text) : Allowed text :=
    .listed rfl (listed.mono fun _ _ => keyed)
  refine Portable.induct (motive := fun _ => Allowed) ?null ?bool ?number ?string ?noItems ?items ?noMembers ?members
    portable
  case null => decide
  case bool =>
    intro value
    cases value <;> decide
  case number => exact fun value _ => .bare (isBare_numeral value)
  case string => exact fun _ _ _ portable => .quoted portable
  case noItems => exact fun _ blank => .cons rfl (.append (.blank blank) (.cons rfl (List.forall_mem_nil _)))
  case items => exact fun _ _ _ blank listed => .cons rfl (.append (.blank blank) (.listed rfl listed))
  case noMembers => exact fun _ blank => .cons rfl (.append (.blank blank) (.cons rfl (List.forall_mem_nil _)))
  case members => exact fun _ _ _ blank listed => .cons rfl (.append (.blank blank) (members listed))

end Json

end ApiStyle
