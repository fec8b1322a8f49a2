import ApiStyle.Url.Domain
import Mathlib.Data.List.Chain
import Mathlib.Data.String.Basic

/-! The delegated domains. A label is looked up by halving one of two sorted tables. That finds it exactly if one of
the two has it, since the table that is left out has no label of that shape. -/

namespace ApiStyle.Domain

variable {table : Array String} {key : String}

theorem lt_iff_of_sorted (sorted : table.toList.Pairwise (· < ·)) {first second : Nat} {one other : String}
    (here : table[first]? = some one) (there : table[second]? = some other) (differs : one ≠ other) :
    first < second ↔ one < other := by
  have order {first second : Nat} {one other : String} (here : table[first]? = some one)
      (there : table[second]? = some other) (before : first < second) : one < other := by
    obtain ⟨within, rfl⟩ := Array.getElem?_eq_some_iff.mp here
    obtain ⟨withinToo, rfl⟩ := Array.getElem?_eq_some_iff.mp there
    exact List.pairwise_iff_getElem.mp sorted first second within withinToo before
  constructor
  · exact order here there
  · intro less
    rcases Nat.lt_trichotomy first second with before | rfl | behind
    · exact before
    · exact absurd (Option.some.inj (here.symm.trans there)) differs
    · exact absurd (order there here behind) (lt_asymm less)

theorem search_iff (sorted : table.toList.Pairwise (· < ·)) (low high : Nat) (inside : high ≤ table.size) :
    search table key low high = true ↔ ∃ index, low ≤ index ∧ index < high ∧ table[index]? = some key := by
  fun_induction search table key low high with
  | case1 low high less middle absent =>
    have within : middle < table.size := by omega
    rw [Array.getElem?_eq_getElem within] at absent
    cases absent
  | case2 low high less middle found =>
    exact iff_of_true rfl ⟨middle, by omega, by omega, found⟩
  | case3 low high less middle entry found differs small ih =>
    -- A key that follows the middle entry can only stand behind it.
    refine (ih inside).trans ?_
    constructor
    · rintro ⟨index, behind, within, here⟩
      exact ⟨index, by omega, within, here⟩
    · rintro ⟨index, _, within, here⟩
      exact ⟨index, (lt_iff_of_sorted sorted found here differs).mpr small, within, here⟩
  | case4 low high less middle entry found differs large ih =>
    have precedes : key < entry := (lt_or_gt_of_ne differs).resolve_left large
    refine (ih (by omega)).trans ?_
    constructor
    · rintro ⟨index, within, before, here⟩
      exact ⟨index, within, by omega, here⟩
    · rintro ⟨index, within, _, here⟩
      exact ⟨index, within, (lt_iff_of_sorted sorted here found (Ne.symm differs)).mpr precedes, here⟩
  | case5 low high none =>
    refine iff_of_false Bool.false_ne_true ?_
    rintro ⟨index, within, before, _⟩
    omega

theorem search_all (sorted : table.toList.Pairwise (· < ·)) :
    search table key 0 table.size = true ↔ key ∈ table := by
  rw [search_iff sorted 0 table.size (Nat.le_refl _), Array.mem_iff_getElem?]
  constructor
  · rintro ⟨index, _, _, here⟩
    exact ⟨index, here⟩
  · rintro ⟨index, here⟩
    exact ⟨index, index.zero_le, (Array.getElem?_eq_some_iff.mp here).1, here⟩

/-- Names beside their letters. The letters of a literal are at hand, so tables are checked letter by letter. -/
inductive Written : List String → List (List Char) → Prop where
  | nil : Written [] []
  | cons {letters : List Char} {names : List String} {words : List (List Char)} (rest : Written names words) :
    Written (String.ofList letters :: names) (letters :: words)

private theorem Written.words_eq {names : List String} {words : List (List Char)} (written : Written names words) :
    words = names.map String.toList := by
  induction written with
  | nil => rfl
  | cons _ ih => rw [List.map_cons, String.toList_ofList, ← ih]

/-- Two letters, which is what a label is looked up by. -/
def IsCode (letters : List Char) : Prop := letters.length = 2 ∧ letters.all isLetter

instance : DecidablePred IsCode := fun _ => inferInstanceAs (Decidable (_ ∧ _))

/-- A table in order whose names are in small letters and have a shape. -/
structure Tidy (shape : List Char → Prop) (table : Array String) : Prop where
  sorted : table.toList.Pairwise (· < ·)
  each : ∀ name ∈ table, shape name.toList ∧ lower name = name

theorem Tidy.of_written {shape : List Char → Prop} {words : List (List Char)}
    (written : Written table.toList words) (sorted : words.IsChain (· < ·))
    (each : ∀ letters ∈ words, shape letters ∧ letters.map Char.toLower = letters) : Tidy shape table := by
  obtain rfl := written.words_eq
  constructor
  · have pairwise := List.isChain_iff_pairwise.mp sorted
    rw [List.pairwise_map] at pairwise
    exact pairwise.imp String.lt_iff_toList_lt.mpr
  · intro name member
    have told := each name.toList (List.mem_map_of_mem member.val)
    refine told.imp_right fun small => ?_
    rw [lower, small, String.ofList_toList]

theorem countryCodes_tidy : Tidy IsCode countryCodes := by
  have written : ∃ words, Written countryCodes.toList words ∧ words.IsChain (· < ·) ∧
      ∀ letters ∈ words, IsCode letters ∧ letters.map Char.toLower = letters := by
    apply Exists.intro
    apply And.intro
    · dsimp only [countryCodes]
      repeat constructor
    · decide +kernel
  obtain ⟨_, written, sorted, each⟩ := written
  exact .of_written written sorted each

set_option maxRecDepth 100000 in
theorem genericDomains_tidy : Tidy (¬ IsCode ·) genericDomains := by
  have written : ∃ words, Written genericDomains.toList words ∧ words.IsChain (· < ·) ∧
      ∀ letters ∈ words, ¬ IsCode letters ∧ letters.map Char.toLower = letters := by
    apply Exists.intro
    apply And.intro
    · dsimp only [genericDomains]
      repeat constructor
    · decide +kernel
  obtain ⟨_, written, sorted, each⟩ := written
  exact .of_written written sorted each

theorem tableFor_sorted (label : String) : (tableFor label).toList.Pairwise (· < ·) := by
  unfold tableFor
  split
  · exact countryCodes_tidy.sorted
  · exact genericDomains_tidy.sorted

/-- The shape of a label tells the only table that can have it. -/
theorem mem_tableFor {label : String} :
    label ∈ tableFor label ↔ label ∈ countryCodes ∨ label ∈ genericDomains := by
  unfold tableFor
  split
  next code =>
    have elsewhere : label ∉ genericDomains := fun member => (genericDomains_tidy.each label member).1 code
    exact (or_iff_left elsewhere).symm
  next other =>
    have elsewhere : label ∉ countryCodes := fun member => other (countryCodes_tidy.each label member).1
    exact (or_iff_right elsewhere).symm

/-- Tables are in small letters, so no other letters are looked for. -/
theorem lower_of_mem {name : String} (member : name ∈ countryCodes ∨ name ∈ genericDomains) : lower name = name := by
  rcases member with member | member
  · exact (countryCodes_tidy.each name member).2
  · exact (genericDomains_tidy.each name member).2

/-- A label is delegated exactly if one of the two tables lists it. Its shape never leads to the table that lacks it,
and halving finds every entry of either table and nothing else. -/
theorem isDelegated_iff_listed (label : String) :
    (isDelegated label ↔ label ∈ countryCodes ∨ label ∈ genericDomains) ∧
    (label ∈ tableFor label ↔ label ∈ countryCodes ∨ label ∈ genericDomains) ∧
    ∀ table ∈ [countryCodes, genericDomains], search table label 0 table.size ↔ label ∈ table := by
  refine ⟨?_, mem_tableFor, ?_⟩
  · have found : isDelegated label ↔ label ∈ tableFor label := search_all (tableFor_sorted label)
    exact found.trans mem_tableFor
  · intro table member
    rcases List.mem_pair.mp member with rfl | rfl
    · exact search_all countryCodes_tidy.sorted
    · exact search_all genericDomains_tidy.sorted

end ApiStyle.Domain
