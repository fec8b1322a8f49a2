import ApiStyle.Table
import Mathlib.Data.List.Nodup
import Mathlib.Data.String.Basic

/-! What maps keep as they are filled: that no key comes twice, and the order of their keys if they have one. -/

namespace ApiStyle

variable {α : Type}

theorem find?_eq_some_iff {values : List α} {test : α → Bool} {value : α} (member : value ∈ values)
    (unique : ∀ other ∈ values, test value → test other → value = other) :
    values.find? test = some value ↔ test value := by
  refine ⟨fun found => List.find?_some found, fun passes => ?_⟩
  cases found : values.find? test with
  | none => exact absurd passes (List.find?_eq_none.mp found value member)
  | some other => rw [unique other (List.mem_of_find?_eq_some found) passes (List.find?_some found)]

theorem find?_name {values : List α} {name : α → String} (distinct : (values.map name).Nodup) {value : α}
    (member : value ∈ values) : values.find? (name · = name value) = some value := by
  refine (find?_eq_some_iff member fun other present _ same => ?_).mpr (decide_eq_true rfl)
  exact List.inj_on_of_nodup_map distinct member present (of_decide_eq_true same).symm

namespace Table

theorem nodup_append_singleton {names : List String} (distinct : names.Nodup) {name : String} (fresh : name ∉ names) :
    (names ++ [name]).Nodup := by
  refine List.nodup_append.mpr ⟨distinct, by simp, fun other member last added same => ?_⟩
  obtain rfl := List.mem_singleton.mp added
  exact fresh (same ▸ member)

theorem fresh_of_nodup {before after : List (String × α)} {key : String} {value : α}
    (distinct : ((before ++ (key, value) :: after).map Prod.fst).Nodup) : key ∉ before.map Prod.fst := by
  rw [List.map_append, List.map_cons] at distinct
  exact fun member => (List.nodup_append.mp distinct).2.2 key member key List.mem_cons_self rfl

theorem mem_of_lookup {table : List (String × α)} {key : String} {value : α} (found : table.lookup key = some value) :
    (key, value) ∈ table := by
  obtain ⟨before, after, rfl, _⟩ := List.lookup_eq_some_iff.mp found
  exact List.mem_append_right before List.mem_cons_self

/-- If no key comes twice, looking a key up finds whatever stands under it. -/
theorem lookup_eq_some_iff {table : List (String × α)} (distinct : (table.map Prod.fst).Nodup) {key : String}
    {value : α} : table.lookup key = some value ↔ (key, value) ∈ table := by
  refine ⟨mem_of_lookup, fun member => ?_⟩
  obtain ⟨before, after, rfl⟩ := List.append_of_mem member
  have fresh := fresh_of_nodup distinct
  refine List.lookup_eq_some_iff.mpr ⟨before, after, rfl, fun entry earlier => ?_⟩
  have differs : key ≠ entry.1 := fun same => fresh (same ▸ List.mem_map_of_mem earlier)
  exact bne_iff_ne.mpr differs

theorem keys_put (key : String) (value : α) (table : List (String × α)) : (put key value table).map Prod.fst =
    if key ∈ table.map Prod.fst then table.map Prod.fst else table.map Prod.fst ++ [key] := by
  induction table with
  | nil => simp [put]
  | cons entry rest ih =>
    obtain ⟨name, old⟩ := entry
    rw [put]
    by_cases same : name = key
    · simp [same]
    · have different : ¬ key = name := fun equal => same equal.symm
      simp only [same, if_false, List.map_cons, ih, List.mem_cons, different, false_or]
      split <;> rfl

theorem put_of_not_mem {key : String} {table : List (String × α)} (fresh : key ∉ table.map Prod.fst) (value : α) :
    put key value table = table ++ [(key, value)] := by
  induction table with
  | nil => rfl
  | cons entry rest ih =>
    obtain ⟨name, old⟩ := entry
    obtain ⟨differs, fresh⟩ := not_or.mp (List.mem_cons.not.mp fresh)
    rw [put, if_neg (Ne.symm differs), ih fresh, List.cons_append]

theorem mem_put {key : String} {value : α} {entry : String × α} {table : List (String × α)}
    (member : entry ∈ put key value table) : entry = (key, value) ∨ entry ∈ table := by
  induction table with
  | nil => simpa [put] using member
  | cons first rest ih =>
    obtain ⟨name, old⟩ := first
    rw [put] at member
    split at member
    · exact (List.mem_cons.mp member).imp_right (List.mem_cons_of_mem _)
    · rcases List.mem_cons.mp member with found | member
      · exact Or.inr (found ▸ List.mem_cons_self)
      · exact (ih member).imp_right (List.mem_cons_of_mem _)

/-- Keys in their order, each once. -/
def IsSorted (table : List (String × α)) : Prop := (table.map Prod.fst).Pairwise (· < ·)

theorem IsSorted.nil : IsSorted ([] : List (String × α)) := List.Pairwise.nil

theorem IsSorted.put {table : List (String × α)} (sorted : IsSorted table) {key : String} {value : α}
    (last : ∀ entry ∈ table, entry.1 ≤ key) : IsSorted (put key value table) := by
  unfold IsSorted
  rw [keys_put]
  split
  · exact sorted
  next absent =>
    refine List.pairwise_append.mpr ⟨sorted, List.pairwise_singleton _ _, fun name member other added => ?_⟩
    obtain rfl := List.mem_singleton.mp added
    obtain ⟨entry, present, rfl⟩ := List.mem_map.mp member
    exact lt_of_le_of_ne (last entry present) fun same => absent (same ▸ member)

end Table

/-- A map as it is read from any format: no key comes twice. -/
structure IsTable (holds : α → Prop) (table : List (String × α)) : Prop where
  distinct : (table.map Prod.fst).Nodup
  values : ∀ key value, (key, value) ∈ table → holds value

namespace IsTable

theorem nil {holds : α → Prop} : IsTable holds [] := ⟨List.nodup_nil, by simp⟩

theorem put {holds : α → Prop} {table : List (String × α)} (kept : IsTable holds table) (key : String) {value : α}
    (fresh : holds value) : IsTable holds (Table.put key value table) := by
  constructor
  · rw [Table.keys_put]
    split
    · exact kept.distinct
    next absent => exact Table.nodup_append_singleton kept.distinct absent
  · intro other found member
    rcases Table.mem_put member with new | old
    · obtain ⟨rfl, rfl⟩ := Prod.mk.inj new
      exact fresh
    · exact kept.values other found old

end IsTable

end ApiStyle
