import ApiStyle.Text.Split
import Mathlib.Data.List.DropRight

/-! Cutting texts. What is left when characters of a kind are cut off at both ends is the one core that lies between
such characters and neither starts nor ends with one. What a text is cut into at a separator are the pieces without
separators that it is joined from. -/

namespace ApiStyle.Text

/-- A text is a core between characters of a kind. -/
structure Surrounded (kind : Char → Bool) (text core : List Char) : Prop where
  around : ∃ before after, text = before ++ core ++ after ∧ (∀ character ∈ before, kind character) ∧
    ∀ character ∈ after, kind character
  starts : ∀ character, core.head? = some character → ¬ kind character
  ends : ∀ character, core.getLast? = some character → ¬ kind character

variable {kind : Char → Bool} {text core : List Char}

private theorem dropWhile_core {before rest : List Char} (margin : ∀ character ∈ before, kind character)
    (starts : ∀ character, rest.head? = some character → ¬ kind character) :
    (before ++ rest).dropWhile kind = rest := by
  rw [List.dropWhile_append_of_pos margin]
  cases rest with
  | nil => rfl
  | cons character rest => exact List.dropWhile_cons_of_neg (starts character rfl)

private theorem head_not_kind (text : List Char) :
    ∀ character, (text.dropWhile kind).head? = some character → ¬ kind character := by
  intro character first
  have told := List.head?_dropWhile_not kind text
  rw [first] at told
  simpa using told

private theorem Surrounded.trimmed (surrounded : Surrounded kind text core) :
    (text.dropWhile kind).rdropWhile kind = core := by
  obtain ⟨⟨before, after, rfl, front, back⟩, starts, ends⟩ := surrounded
  cases core with
  | nil =>
    have gone : (before ++ [] ++ after).dropWhile kind = [] := by
      apply List.dropWhile_eq_nil_iff.mpr
      simpa [or_imp, forall_and] using And.intro front back
    rw [gone]
    rfl
  | cons first rest =>
    have cut : (before ++ (first :: rest) ++ after).dropWhile kind = first :: rest ++ after := by
      rw [List.append_assoc]
      apply dropWhile_core front
      simpa using starts
    rw [cut, List.rdropWhile, List.reverse_append, dropWhile_core, List.reverse_reverse]
    · simpa using back
    · rwa [List.head?_reverse]

private theorem surrounded_trimmed (kind : Char → Bool) (text : List Char) :
    Surrounded kind text ((text.dropWhile kind).rdropWhile kind) := by
  have whole : text.takeWhile kind ++ (text.dropWhile kind).rdropWhile kind ++ (text.dropWhile kind).rtakeWhile kind =
      text := by
    rw [List.append_assoc, List.rdropWhile_append_rtakeWhile, List.takeWhile_append_dropWhile]
  constructor
  · refine ⟨_, _, whole.symm, ?_, ?_⟩
    · intro character member
      exact List.mem_takeWhile_imp member
    · intro character member
      exact List.mem_rtakeWhile_imp member
  · intro character first
    obtain ⟨rest, same⟩ := List.rdropWhile_prefix kind (text.dropWhile kind)
    apply head_not_kind text
    rw [← same, List.head?_append, first]
    rfl
  · intro character last
    rw [List.rdropWhile, List.getLast?_reverse] at last
    exact head_not_kind _ character last

theorem surrounded_iff : Surrounded kind text core ↔ (text.dropWhile kind).rdropWhile kind = core := by
  constructor
  · exact Surrounded.trimmed
  · rintro rfl
    exact surrounded_trimmed kind text

theorem Surrounded.of_ends (starts : ∀ character, text.head? = some character → ¬ kind character)
    (ends : ∀ character, text.getLast? = some character → ¬ kind character) : Surrounded kind text text :=
  ⟨⟨[], [], (List.append_nil text).symm, List.forall_mem_nil _, List.forall_mem_nil _⟩, starts, ends⟩

variable {separator : Char} {piece : List Char}

private theorem not_mem_of_mem_pieces (member : piece ∈ pieces separator text) : separator ∉ piece := by
  induction text generalizing piece with
  | nil =>
    obtain rfl := List.mem_singleton.mp member
    exact List.not_mem_nil
  | cons character rest ih =>
    rw [pieces] at member
    split at member
    next =>
      rcases List.mem_cons.mp member with rfl | later
      · exact List.not_mem_nil
      · exact ih later
    next differs =>
      split at member
      next =>
        obtain rfl := List.mem_singleton.mp member
        simpa using Ne.symm differs
      next first others cut =>
        rcases List.mem_cons.mp member with rfl | later
        · exact List.not_mem_cons_of_ne_of_not_mem (Ne.symm differs) (ih (cut ▸ List.mem_cons_self))
        · exact ih (cut ▸ List.mem_cons_of_mem first later)

theorem mem_of_mem_splitOn {character : Char} (between : piece ∈ text.splitOn separator) (member : character ∈ piece) :
    character ∈ text := by
  obtain ⟨before, after, cut⟩ := List.append_of_mem between
  have joined : [separator].intercalate (text.splitOn separator) = text := List.intercalate_splitOn separator
  rw [cut] at joined
  rw [← joined]
  cases before with
  | nil =>
    rw [List.nil_append, intercalate_cons]
    exact List.mem_append_left _ member
  | cons first before =>
    rw [List.cons_append, intercalate_cons, List.flatMap_append, List.flatMap_cons]
    simp [member]

theorem intercalate_split (separator : Char) (text : String) :
    (String.ofList [separator]).intercalate (split separator text) = text := by
  apply String.toList_inj.mp
  have letters : (split separator text).map String.toList = text.toList.splitOn separator := by
    simp [split, pieces_eq_splitOn]
  rw [String.toList_intercalate, letters, String.toList_ofList]
  exact List.intercalate_splitOn separator

/-- Texts that are joined are found again exactly if none of them holds a separator itself. -/
theorem split_intercalate_iff (separator : Char) {texts : List String} (some : texts ≠ []) :
    split separator ((String.ofList [separator]).intercalate texts) = texts ↔
      ∀ text ∈ texts, separator ∉ text.toList := by
  constructor
  · intro found text member
    rw [← found] at member
    obtain ⟨piece, inside, rfl⟩ := List.mem_map.mp member
    rw [String.toList_ofList]
    exact not_mem_of_mem_pieces inside
  · intro whole
    have letters : ((String.ofList [separator]).intercalate texts).toList.splitOn separator =
        texts.map String.toList := by
      rw [String.toList_intercalate, String.toList_ofList]
      apply List.splitOn_intercalate
      · simpa using whole
      · simpa using some
    rw [split, pieces_eq_splitOn, letters]
    simp

end ApiStyle.Text
