import ApiStyle.Proofs.DelegatedDomains
import ApiStyle.Proofs.KnownDomains
import ApiStyle.Proofs.NameShapes

/-! The domains that are accepted, as a grammar: labels with dots between them and maybe one more behind them, of which
the last one is known unless it is alone. Large letters do not count, and neither does what stands in front of two
labels. -/

namespace ApiStyle.Domain

/-- What a label of a host may be. -/
structure IsHostLabel (label : String) : Prop where
  nonempty : label ≠ ""
  short : label.length ≤ 63
  each : ∀ character ∈ label.toList, character.isAlphanum ∨ character = '-'
  starts : label.toList.head? ≠ some '-'
  ends : label.toList.getLast? ≠ some '-'

/-- A label that may stand last. Local names, delegated ones and those that an entry spells may, in any letters. -/
inductive IsTopLevel (extra : List String) (label : String) : Prop where
  | own (member : lower label ∈ ["localhost", "localdomain"])
  | delegated (name : String) (member : name ∈ countryCodes ∨ name ∈ genericDomains) (same : lower name = lower label)
  | listed (entry : String) (member : entry ∈ extra) (spelled : Spells entry (lower label))

/-- Labels of which the last one is known unless it is alone. -/
structure IsDomain (extra labels : List String) : Prop where
  each : ∀ label ∈ labels, IsHostLabel label
  known : labels.length = 1 ∨ ∃ last, labels.getLast? = some last ∧ IsTopLevel extra last

private theorem IsDomain.ne_nil {extra labels : List String} (valid : IsDomain extra labels) : labels ≠ [] := by
  rintro rfl
  rcases valid.known with impossible | ⟨_, impossible, _⟩
  · cases impossible
  · cases impossible

/-- A text is labels with dots between them, and maybe one more dot behind them. -/
def Writes (labels : List String) (text : String) : Prop :=
  text = ".".intercalate labels ∨ text = ".".intercalate labels ++ "."

variable {extra : List String} {label text : String}

private theorem isLower_iff {character : Char} :
    character.isLower ↔ 'a'.val ≤ character.val ∧ character.val ≤ 'z'.val := by
  change (decide ('a'.val ≤ character.val) && decide (character.val ≤ 'z'.val)) = true ↔ _
  rw [Bool.and_eq_true, decide_eq_true_eq, decide_eq_true_eq]

private theorem isUpper_iff {character : Char} :
    character.isUpper ↔ 'A'.val ≤ character.val ∧ character.val ≤ 'Z'.val := decide_eq_true_iff

private theorem isAlpha_iff {character : Char} : character.isAlpha ↔ character.isUpper ∨ character.isLower := by
  change (character.isUpper || character.isLower) = true ↔ _
  rw [Bool.or_eq_true]

private theorem toLower_cases (character : Char) :
    (character.isUpper ∧ character.toLower.isLower) ∨ (¬ character.isUpper ∧ character.toLower = character) := by
  rw [isUpper_iff]
  unfold Char.toLower
  split
  next large =>
    refine .inl ⟨large, isLower_iff.mpr ?_⟩
    obtain ⟨low, high⟩ := large
    rw [ge_iff_le, UInt32.le_iff_toNat_le] at low
    rw [UInt32.le_iff_toNat_le] at high
    have apart : ('a'.val - 'A'.val).toNat = 32 ∧ 'A'.val.toNat = 65 ∧ 'a'.val.toNat = 97 := by decide
    have between : 'A'.val.toNat + 25 = 'Z'.val.toNat ∧ 'a'.val.toNat + 25 = 'z'.val.toNat := by decide
    simp only [UInt32.le_iff_toNat_le, UInt32.toNat_add]
    omega
  next small => exact .inr ⟨small, rfl⟩

private theorem isAlpha_toLower (character : Char) : character.toLower.isAlpha = character.isAlpha := by
  rcases toLower_cases character with ⟨large, small⟩ | ⟨_, same⟩
  · exact (isAlpha_iff.mpr (.inr small)).trans (isAlpha_iff.mpr (.inl large)).symm
  · rw [same]

private theorem toLower_toLower (character : Char) : character.toLower.toLower = character.toLower := by
  rcases toLower_cases character.toLower with ⟨large, _⟩ | ⟨_, same⟩
  · rcases toLower_cases character with ⟨_, small⟩ | ⟨other, same⟩
    · have last : 'Z'.val < 'a'.val := by decide
      exact absurd (UInt32.le_trans (isLower_iff.mp small).1 (isUpper_iff.mp large).2) (UInt32.not_le.mpr last)
    · exact absurd (same ▸ large) other
  · exact same

private theorem toLower_eq_iff {character mark : Char} (plain : ¬ mark.isAlpha) :
    character.toLower = mark ↔ character = mark := by
  rcases toLower_cases character with ⟨large, _⟩ | ⟨_, same⟩
  · have letter : character.isAlpha := isAlpha_iff.mpr (.inl large)
    constructor
    · rintro rfl
      exact absurd ((isAlpha_toLower character).trans letter) plain
    · rintro rfl
      exact absurd letter plain
  · rw [same]

private theorem isAlphanum_toLower (character : Char) : character.toLower.isAlphanum = character.isAlphanum := by
  rcases toLower_cases character with ⟨large, small⟩ | ⟨_, same⟩
  · have letter : character.isAlpha := isAlpha_iff.mpr (.inl large)
    change (character.toLower.isAlpha || character.toLower.isDigit) = (character.isAlpha || character.isDigit)
    rw [isAlpha_toLower, letter, Bool.true_or, Bool.true_or]
  · rw [same]

theorem toList_lower (text : String) : (lower text).toList = text.toList.map Char.toLower := String.toList_ofList

private theorem lower_lower (text : String) : lower (lower text) = lower text := by
  apply String.toList_inj.mp
  rw [toList_lower, toList_lower, List.map_map]
  exact List.map_congr_left fun character _ => toLower_toLower character

private theorem lower_append (text more : String) : lower (text ++ more) = lower text ++ lower more := by
  apply String.toList_inj.mp
  simp [toList_lower]

private theorem isHostLabel_lower : IsHostLabel (lower label) ↔ IsHostLabel label := by
  have hyphen {character : Char} : character.toLower = '-' ↔ character = '-' := toLower_eq_iff (by decide)
  have allowed (character : Char) : (character.toLower.isAlphanum ∨ character.toLower = '-') ↔
      (character.isAlphanum ∨ character = '-') := by
    rw [isAlphanum_toLower, hyphen]
  have place (at? : Option Char) : at?.map Char.toLower ≠ some '-' ↔ at? ≠ some '-' := by
    cases at? with
    | none => simp
    | some character => simpa using hyphen.not
  have empty : lower label = "" ↔ label = "" := by
    rw [← String.toList_eq_nil_iff, toList_lower, List.map_eq_nil_iff, String.toList_eq_nil_iff]
  have length : (lower label).length = label.length := by
    rw [← String.length_toList, toList_lower, List.length_map, String.length_toList]
  constructor
  · rintro ⟨nonempty, short, each, starts, ends⟩
    simp only [toList_lower, List.forall_mem_map, List.head?_map, List.getLast?_map, allowed, place] at each starts ends
    exact ⟨empty.not.mp nonempty, length.ge.trans short, each, starts, ends⟩
  · rintro ⟨nonempty, short, each, starts, ends⟩
    refine ⟨empty.not.mpr nonempty, length.trans_le short, ?_, ?_, ?_⟩
    · simpa only [toList_lower, List.forall_mem_map, allowed] using each
    · simpa only [toList_lower, List.head?_map, place] using starts
    · simpa only [toList_lower, List.getLast?_map, place] using ends

private theorem IsTopLevel.of_lower {other : String} (same : lower label = lower other)
    (known : IsTopLevel extra label) :
    IsTopLevel extra other := by
  cases known with
  | own member => exact .own (same ▸ member)
  | delegated name member agrees => exact .delegated name member (agrees.trans same)
  | listed entry member spelled => exact .listed entry member (same ▸ spelled)

private theorem isTopLevel_lower : IsTopLevel extra (lower label) ↔ IsTopLevel extra label :=
  ⟨.of_lower (lower_lower label), .of_lower (lower_lower label).symm⟩

private theorem isDomain_lower {labels : List String} : IsDomain extra (labels.map lower) ↔ IsDomain extra labels := by
  constructor
  · rintro ⟨each, known⟩
    simp only [List.forall_mem_map, isHostLabel_lower] at each
    refine ⟨each, known.imp ?_ ?_⟩
    · exact (List.length_map lower).symm.trans
    · rintro ⟨_, found, known⟩
      rw [List.getLast?_map, Option.map_eq_some_iff] at found
      obtain ⟨label, last, rfl⟩ := found
      exact ⟨label, last, isTopLevel_lower.mp known⟩
  · rintro ⟨each, known⟩
    refine ⟨?_, known.imp ?_ ?_⟩
    · simpa only [List.forall_mem_map, isHostLabel_lower] using each
    · exact (List.length_map lower).trans
    · rintro ⟨label, last, known⟩
      refine ⟨lower label, ?_, isTopLevel_lower.mpr known⟩
      rw [List.getLast?_map, last, Option.map_some]

private theorem isLabelChar_iff {character : Char} :
    isLabelChar character = true ↔ character.isAlphanum ∨ character = '-' := by
  have letter : isLetter character = (character.isUpper || character.isLower) := by
    rw [isLetter, Convention.isLarge_eq, Bool.or_comm]
    rfl
  rw [isLabelChar, letter, Bool.or_eq_true, beq_iff_eq]
  rfl

private theorem isLabel_iff : isLabel label = true ↔ IsHostLabel label := by
  simp only [isLabel, longestLabel, Bool.and_eq_true, Bool.not_eq_true', List.isEmpty_eq_false_iff, bne_iff_ne,
    decide_eq_true_eq, List.all_eq_true, isLabelChar_iff, String.length_toList]
  constructor
  · rintro ⟨⟨⟨⟨nonempty, short⟩, starts⟩, ends⟩, each⟩
    exact ⟨String.toList_eq_nil_iff.not.mp nonempty, short, each, starts, ends⟩
  · rintro ⟨nonempty, short, each, starts, ends⟩
    exact ⟨⟨⟨⟨String.toList_eq_nil_iff.not.mpr nonempty, short⟩, starts⟩, ends⟩, each⟩

private theorem isKnown_iff : isKnown extra label = true ↔ IsTopLevel extra label := by
  have delegated : isDelegated (lower label) = true ↔ lower label ∈ countryCodes ∨ lower label ∈ genericDomains :=
    (search_all (tableFor_sorted _)).trans mem_tableFor
  simp only [isKnown, Bool.or_eq_true, List.any_eq_true, decide_eq_true_eq, delegated, ← spells_iff]
  constructor
  · rintro ((member | member) | ⟨entry, member, spelled⟩)
    · exact .own member
    · exact .delegated _ member (lower_of_mem member)
    · exact .listed entry member spelled
  · rintro (member | ⟨name, member, same⟩ | ⟨entry, member, spelled⟩)
    · exact .inl (.inl member)
    · rw [lower_of_mem member] at same
      exact .inl (.inr (same ▸ member))
    · exact .inr ⟨entry, member, spelled⟩

theorem isDomain_iff {labels : List String} : IsDomain extra labels ↔ (∀ label ∈ labels, IsHostLabel label) ∧
    (labels.length = 1 ∨ ∃ last, labels.getLast? = some last ∧ IsTopLevel extra last) :=
  ⟨fun ⟨each, known⟩ => ⟨each, known⟩, fun ⟨each, known⟩ => ⟨each, known⟩⟩

private theorem accepts_iff_labels : accepts extra text = true ↔ IsDomain extra (labels text) := by
  rw [accepts, isDomain_iff, Bool.and_eq_true, List.all_eq_true]
  simp only [isLabel_iff]
  apply and_congr_right'
  rw [← List.head?_reverse, ← List.length_reverse]
  cases (labels text).reverse with
  | nil => simp
  | cons last others =>
    cases others with
    | nil => simp
    | cons => simp [isKnown_iff]

theorem split_append (text more : String) :
    Text.split '.' (text ++ "." ++ more) = Text.split '.' text ++ Text.split '.' more := by
  simp only [Text.split, String.toList_append, List.append_assoc]
  exact (congrArg _ (Text.pieces_append '.' _ _)).trans List.map_append

private theorem split_lower (text : String) : Text.split '.' (lower text) = (Text.split '.' text).map lower := by
  have dot {character : Char} : character.toLower = '.' ↔ character = '.' := toLower_eq_iff (by decide)
  have pieces (letters : List Char) : Text.pieces '.' (letters.map Char.toLower) =
      (Text.pieces '.' letters).map (List.map Char.toLower) := by
    induction letters with
    | nil => rfl
    | cons character rest ih =>
      rw [List.map_cons, Text.pieces, Text.pieces, ih]
      simp only [dot]
      split
      · rfl
      · cases Text.pieces '.' rest <;> rfl
  simp [Text.split, pieces, lower]

theorem dotted_or_undotted (text : String) : (∃ body, text = body ++ ".") ∨ text.toList.getLast? ≠ some '.' := by
  by_cases last : text.toList.getLast? = some '.'
  · obtain ⟨body, same⟩ := List.getLast?_eq_some_iff.mp last
    refine .inl ⟨String.ofList body, String.toList_inj.mp ?_⟩
    rw [same, String.toList_append, String.toList_ofList]
    rfl
  · exact .inr last

theorem labels_dot (body : String) : labels (body ++ ".") = Text.split '.' body := by
  have letters : (body ++ ".").toList = body.toList ++ ['.'] := String.toList_append
  rw [labels, letters, List.getLast?_concat, if_pos rfl, List.dropLast_concat, Text.split]

theorem labels_of_undotted (plain : text.toList.getLast? ≠ some '.') : labels text = Text.split '.' text := by
  rw [labels, if_neg plain, Text.split]

private theorem writes_labels (text : String) : Writes (labels text) text := by
  rcases dotted_or_undotted text with ⟨body, rfl⟩ | plain
  · have joined : ".".intercalate (Text.split '.' body) = body := Text.intercalate_split '.' body
    rw [labels_dot, Writes, joined]
    exact .inr rfl
  · rw [labels_of_undotted plain]
    exact .inl (Text.intercalate_split '.' text).symm

theorem IsHostLabel.whole (valid : IsHostLabel label) : '.' ∉ label.toList := by
  intro inside
  rcases valid.each '.' inside with impossible | impossible
  · cases impossible
  · cases impossible

private theorem labels_of_writes {labels : List String} (some : labels ≠ [])
    (each : ∀ label ∈ labels, IsHostLabel label)
    (writes : Writes labels text) : Domain.labels text = labels := by
  have cut : Text.split '.' (".".intercalate labels) = labels :=
    (Text.split_intercalate_iff '.' some).mpr fun label member => (each label member).whole
  rcases writes with rfl | rfl
  · rcases dotted_or_undotted (".".intercalate labels) with ⟨body, dotted⟩ | plain
    · -- The piece behind a final dot would be a label without letters.
      have empty : "" ∈ labels := by
        have behind : Text.split '.' (body ++ "." ++ "") = Text.split '.' body ++ [""] := split_append body ""
        rw [String.append_empty, ← dotted, cut] at behind
        rw [behind]
        exact List.mem_append_right _ List.mem_cons_self
      exact absurd rfl (each "" empty).nonempty
    · rw [labels_of_undotted plain, cut]
  · rw [labels_dot, cut]

private theorem labels_lower (text : String) : labels (lower text) = (labels text).map lower := by
  rcases dotted_or_undotted text with ⟨body, rfl⟩ | plain
  · have dotted : lower (body ++ ".") = lower body ++ "." := lower_append body "."
    rw [dotted, labels_dot, labels_dot, split_lower]
  · have still : (lower text).toList.getLast? ≠ some '.' := by
      rw [toList_lower, List.getLast?_map]
      intro dotted
      obtain ⟨character, last, mark⟩ := Option.map_eq_some_iff.mp dotted
      rw [toLower_eq_iff (by decide)] at mark
      exact plain (mark ▸ last)
    rw [labels_of_undotted plain, labels_of_undotted still, split_lower]

private theorem labels_front (valid : IsHostLabel label) (more : text ≠ "") :
    labels (label ++ "." ++ text) = label :: labels text := by
  have alone : Text.split '.' label = [label] := by
    rw [Text.split, Text.pieces_of_not_mem valid.whole, List.map_singleton, String.ofList_toList]
  rcases dotted_or_undotted text with ⟨body, rfl⟩ | plain
  · have front : label ++ "." ++ (body ++ ".") = label ++ "." ++ body ++ "." := by
      simp only [String.append_assoc]
    rw [front, labels_dot, labels_dot, split_append, alone, List.singleton_append]
  · have still : (label ++ "." ++ text).toList.getLast? ≠ some '.' := by
      rwa [String.toList_append, List.getLast?_append_of_ne_nil _ (String.toList_eq_nil_iff.not.mpr more)]
    rw [labels_of_undotted still, labels_of_undotted plain, split_append, alone, List.singleton_append]

private theorem isDomain_cons {labels : List String} (valid : IsHostLabel label) (two : 2 ≤ labels.length) :
    IsDomain extra (label :: labels) ↔ IsDomain extra labels := by
  obtain ⟨first, second, rest, rfl⟩ : ∃ first second rest, labels = first :: second :: rest := by
    match labels, two with
    | first :: second :: rest, _ => exact ⟨first, second, rest, rfl⟩
  rw [isDomain_iff, isDomain_iff, List.forall_mem_cons, List.getLast?_cons_cons]
  simp [valid]

private theorem nonempty_of_labels (two : 2 ≤ (labels text).length) : text ≠ "" := by
  rintro rfl
  exact absurd two (by decide)

/-- A domain is accepted if it is labels with dots between them, maybe with one more at the end, and the last label is
known unless it is alone. Large letters do not count, nor does one dot more, nor a label in front of two. -/
theorem accepts_grammar (extra : List String) (text : String) :
    (accepts extra text ↔ ∃ labels, Writes labels text ∧ IsDomain extra labels) ∧
    (∀ other, lower other = lower text → accepts extra other = accepts extra text) ∧
    (text.toList.getLast? ≠ some '.' → accepts extra (text ++ ".") = accepts extra text) ∧
    ∀ label, IsHostLabel label → 2 ≤ (labels text).length →
      accepts extra (label ++ "." ++ text) = accepts extra text := by
  have small (text : String) : accepts extra (lower text) = accepts extra text := by
    rw [Bool.eq_iff_iff, accepts_iff_labels, accepts_iff_labels, labels_lower, isDomain_lower]
  refine ⟨?_, ?_, ?_, ?_⟩
  · rw [accepts_iff_labels]
    constructor
    · exact fun valid => ⟨labels text, writes_labels text, valid⟩
    · rintro ⟨labels, writes, valid⟩
      rwa [labels_of_writes valid.ne_nil valid.each writes]
  · intro other same
    rw [← small other, same, small]
  · intro plain
    rw [Bool.eq_iff_iff, accepts_iff_labels, accepts_iff_labels, labels_dot, labels_of_undotted plain]
  · intro label valid two
    rw [Bool.eq_iff_iff, accepts_iff_labels, accepts_iff_labels, labels_front valid (nonempty_of_labels two),
      isDomain_cons valid two]

end ApiStyle.Domain
