import ApiStyle.Proofs.Cutting
import ApiStyle.Url.Check

/-! What stands around a url. A text with white space is refused, so that a url is judged as it is written. But reading
a url leaves out more than white space: other control characters are cut off at both ends as well. The texts that are
accepted are urls that stand for themselves, with any such characters in front and behind. -/

namespace ApiStyle.Url

/-- The name of a scheme that servers may have, in letters of either case, and a colon. -/
def StartsWithScheme (text : List Char) : Prop :=
  ∃ name rest, text = name ++ ':' :: rest ∧ Domain.lower (String.ofList name) ∈ ["http", "https", "ftp"]

/-- A text that is read as it is written. There is no white space in it, and no end that is cut off. -/
structure IsLiteral (text : List Char) : Prop where
  scheme : StartsWithScheme text
  spaceless : ∀ character ∈ text, ¬ Text.isWhite character
  starts : ∀ character, text.head? = some character → ¬ isTrimmed character
  ends : ∀ character, text.getLast? = some character → ¬ isTrimmed character

/-- A control character that is no white space. -/
def IsMargin (character : Char) : Prop :=
  character.toNat ≤ 0x08 ∨ 0x0E ≤ character.toNat ∧ character.toNat ≤ 0x1F

private theorem isMargin_iff {character : Char} :
    IsMargin character ↔ isTrimmed character ∧ ¬ Text.isWhite character := by
  simp only [IsMargin, isTrimmed, Text.isWhite, Bool.or_eq_true, Bool.and_eq_true, decide_eq_true_eq, beq_iff_eq]
  omega

theorem surrounded_iff {text core : List Char} : Text.Surrounded isTrimmed text core ↔ trimmed text = core :=
  Text.surrounded_iff

theorem IsLiteral.trimmed_eq {text : List Char} (literal : IsLiteral text) : trimmed text = text :=
  surrounded_iff.mp (.of_ends literal.starts literal.ends)

private theorem startsWithScheme_of_scheme? {text rest : List Char} {name : String}
    (read : scheme? text = some (name, rest))
    (known : name ∈ schemes) : StartsWithScheme text := by
  have whole : text.takeWhile isSchemeChar ++ text.drop (text.takeWhile isSchemeChar).length = text :=
    List.prefix_iff_eq_append.mp (List.takeWhile_prefix isSchemeChar)
  unfold scheme? at read
  dsimp only at read
  split at read
  next after cut =>
    split at read
    next first others spelled =>
      split at read
      · obtain ⟨rfl, rfl⟩ := Prod.mk.inj (Option.some.inj read)
        rw [cut] at whole
        exact ⟨_, after, whole.symm, known⟩
      · cases read
    · cases read
  · cases read

/-- Whether a server may have this host. -/
def Host.isAccepted (extra : List String) : Host → Bool
  | address => true
  | domain name => Domain.accepts extra name

theorem isValid_iff {extra : List String} {candidate : String} : isValid extra candidate ↔
    (∀ character ∈ candidate.toList, ¬ Text.isWhite character) ∧
      ∃ scheme host, parse? candidate = some (scheme, host) ∧ host.isAccepted extra := by
  have nothing : parse? "" = none := rfl
  unfold isValid
  split
  next refused =>
    simp only [Bool.false_eq_true, false_iff]
    rintro ⟨spaceless, scheme, host, read, _⟩
    rcases (Bool.or_eq_true _ _).mp refused with empty | white
    · rw [String.isEmpty_iff.mp empty, nothing] at read
      cases read
    · obtain ⟨character, member, white⟩ := List.any_eq_true.mp white
      exact spaceless character member white
  next passed =>
    have spaceless : ∀ character ∈ candidate.toList, ¬ Text.isWhite character := by
      intro character member white
      exact passed (Bool.or_eq_true_iff.mpr (.inr (List.any_eq_true.mpr ⟨character, member, white⟩)))
    rw [and_iff_right spaceless]
    cases parse? candidate with
    | none => simp
    | some found =>
      obtain ⟨scheme, host⟩ := found
      cases host <;> simp [Host.isAccepted]

theorem parse?_congr {first second : String} (same : trimmed first.toList = trimmed second.toList) :
    parse? first = parse? second := by
  rw [parse?, parse?, same]

private theorem startsWithScheme_of_parse? {candidate scheme : String} {host : Host}
    (read : parse? candidate = some (scheme, host)) : StartsWithScheme (trimmed candidate.toList) := by
  obtain ⟨⟨name, rest⟩, found, read⟩ := Option.bind_eq_some_iff.mp read
  dsimp only at read
  split at read
  next known => exact startsWithScheme_of_scheme? found known
  next => cases read

section

variable {extra : List String} {candidate : String} {before core after : List Char}

private theorem isValid_of_literal (literal : IsLiteral core) (valid : isValid extra (String.ofList core))
    (cut : trimmed candidate.toList = core) (spaceless : ∀ character ∈ candidate.toList, ¬ Text.isWhite character) :
    isValid extra candidate := by
  obtain ⟨_, scheme, host, read, accepted⟩ := isValid_iff.mp valid
  refine isValid_iff.mpr ⟨spaceless, scheme, host, ?_, accepted⟩
  rw [← read]
  apply parse?_congr
  rw [String.toList_ofList, literal.trimmed_eq, cut]

/-- What is left of an accepted text is read as it is written, and accepted as well. -/
theorem literal_of_isValid (valid : isValid extra candidate) (cut : trimmed candidate.toList = core) :
    IsLiteral core ∧ isValid extra (String.ofList core) := by
  obtain ⟨spaceless, scheme, host, read, accepted⟩ := isValid_iff.mp valid
  obtain ⟨⟨before, after, whole, _⟩, starts, ends⟩ := surrounded_iff.mpr cut
  have clear : ∀ character ∈ core, ¬ Text.isWhite character := by
    intro character member
    apply spaceless
    rw [whole]
    exact List.mem_append_left after (List.mem_append_right before member)
  have literal : IsLiteral core := ⟨cut ▸ startsWithScheme_of_parse? read, clear, starts, ends⟩
  refine ⟨literal, isValid_iff.mpr ⟨?_, scheme, host, ?_, accepted⟩⟩
  · rwa [String.toList_ofList]
  · rw [← read]
    apply parse?_congr
    rw [String.toList_ofList, literal.trimmed_eq, cut]

theorem isLiteral_surrounded (literal : IsLiteral core) (cut : trimmed (before ++ core ++ after) = core) :
    IsLiteral (before ++ core ++ after) ↔ before = [] ∧ after = [] := by
  constructor
  · intro asWritten
    have lengths := congrArg List.length (asWritten.trimmed_eq.symm.trans cut)
    simp only [List.length_append] at lengths
    exact ⟨List.length_eq_zero_iff.mp (by omega), List.length_eq_zero_iff.mp (by omega)⟩
  · rintro ⟨rfl, rfl⟩
    rwa [List.nil_append, List.append_nil]

end

/-- An accepted text is an accepted one that is read as it is written, between control characters that nobody looks at.
Any such characters may stand there, and the text itself is read as it is written only if there are none. -/
theorem isValid_iff_literal (extra : List String) (candidate : String) :
    isValid extra candidate ↔ ∃ before core after, candidate.toList = before ++ core ++ after ∧
      (∀ character ∈ before, IsMargin character) ∧ (∀ character ∈ after, IsMargin character) ∧
      IsLiteral core ∧ isValid extra (String.ofList core) ∧
      (IsLiteral candidate.toList ↔ before = [] ∧ after = []) := by
  constructor
  · intro valid
    have spaceless := (isValid_iff.mp valid).1
    obtain ⟨literal, validCore⟩ := literal_of_isValid valid rfl
    obtain ⟨⟨before, after, whole, front, back⟩, _⟩ := surrounded_iff.mpr (Eq.refl (trimmed candidate.toList))
    refine ⟨before, trimmed candidate.toList, after, whole, ?_, ?_, literal, validCore, ?_⟩
    · intro character member
      refine isMargin_iff.mpr ⟨front character member, spaceless character ?_⟩
      rw [whole]
      exact List.mem_append_left after (List.mem_append_left _ member)
    · intro character member
      refine isMargin_iff.mpr ⟨back character member, spaceless character ?_⟩
      rw [whole]
      exact List.mem_append_right _ member
    · have split := isLiteral_surrounded literal (congrArg trimmed whole).symm
      rwa [← whole] at split
  · rintro ⟨before, core, after, whole, front, back, literal, valid, _⟩
    have cut : trimmed candidate.toList = core := by
      refine surrounded_iff.mp ⟨⟨before, after, whole, ?_, ?_⟩, literal.starts, literal.ends⟩
      · exact fun character member => (isMargin_iff.mp (front character member)).1
      · exact fun character member => (isMargin_iff.mp (back character member)).1
    apply isValid_of_literal literal valid cut
    rw [whole, List.forall_mem_append, List.forall_mem_append]
    refine ⟨⟨?_, literal.spaceless⟩, ?_⟩
    · exact fun character member => (isMargin_iff.mp (front character member)).2
    · exact fun character member => (isMargin_iff.mp (back character member)).2

/-- The control character in front is left out when the url is read, though it is no white space. -/
theorem margin_overlooked : ¬ ∀ extra candidate, isValid extra candidate → IsLiteral candidate.toList := by
  intro every
  have accepted : isValid [] "\x01http://[::1]/" = true := by decide +kernel
  exact (every [] _ accepted).starts '\x01' rfl (by decide)

end ApiStyle.Url
