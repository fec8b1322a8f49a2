/-! Cutting a text at a separator. -/

namespace ApiStyle.Text

/-- The pieces between separators; there is always one more piece than there are separators. -/
def pieces (separator : Char) : List Char → List (List Char)
  | [] => [[]]
  | character :: rest =>
    if character = separator then [] :: pieces separator rest
    else match pieces separator rest with
      | [] => [[character]]
      | piece :: others => (character :: piece) :: others

theorem pieces_eq_splitOn (separator : Char) (text : List Char) :
    pieces separator text = text.splitOn separator := by
  rw [List.splitOn_eq_splitOnP]
  induction text with
  | nil => simp [pieces]
  | cons character rest ih =>
    rw [pieces, List.splitOnP_cons_eq_if_modifyHead, ih]
    simp only [beq_iff_eq]
    split
    · rfl
    · obtain ⟨piece, others, shape⟩ := List.exists_cons_of_ne_nil (List.splitOnP_ne_nil (· == separator) rest)
      rw [shape]
      rfl

theorem pieces_append (separator : Char) (text more : List Char) :
    pieces separator (text ++ separator :: more) = pieces separator text ++ pieces separator more := by
  rw [pieces_eq_splitOn, pieces_eq_splitOn, pieces_eq_splitOn, List.splitOn_append_cons_self]

theorem pieces_of_not_mem {separator : Char} {piece : List Char} (inner : separator ∉ piece) :
    pieces separator piece = [piece] := by
  rw [pieces_eq_splitOn, List.splitOn_eq_singleton inner]

/-- Texts with separators between them are the first of them and, for each further one, a separator and that text. -/
theorem intercalate_cons (separator : Char) (first : List Char) (others : List (List Char)) :
    [separator].intercalate (first :: others) = first ++ others.flatMap (separator :: ·) := by
  induction others generalizing first with
  | nil => simp
  | cons second others ih => simp [List.intercalate_cons_cons, ih]

def split (separator : Char) (text : String) : List String :=
  (pieces separator text.toList).map String.ofList

end ApiStyle.Text
