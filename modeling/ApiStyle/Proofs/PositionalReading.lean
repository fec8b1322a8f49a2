import ApiStyle.Proofs.MemberReading
import ApiStyle.Proofs.Tables
import Mathlib.Data.Finset.Lattice.Lemmas

/-! Records that are given as arrays. The items are read as the fields in order, which comes to reading an object that
has them as members under the names of the fields. More items than fields are refused. -/

namespace ApiStyle.Json

open Source

/-- Items as members, under the names in order. -/
def named (names : List String) (items : List Draft) : List Member :=
  names.zipWith (fun name item => (.ok name, item)) items

private theorem named_cons (name : String) (names : List String) (item : Draft) (items : List Draft) :
    named (name :: names) (item :: items) = (.ok name, item) :: named names items := rfl

theorem exists_named {names : List String} {name : String} {before : List Draft}
    (known : names[before.length]? = some name) (after : List Draft) : ∃ earlier later : List Member, ∀ item,
      named names (before ++ item :: after) = earlier ++ (.ok name, item) :: later := by
  obtain ⟨inside, here⟩ := List.getElem?_eq_some_iff.mp known
  have aligned : (names.take before.length).length = before.length := List.length_take_of_le (Nat.le_of_lt inside)
  have parts : names = names.take before.length ++ name :: names.drop (before.length + 1) := by
    rw [← here, ← List.drop_eq_getElem_cons, List.take_append_drop]
  refine ⟨named (names.take before.length) before, named (names.drop (before.length + 1)) after, fun item => ?_⟩
  rw [named, parts, List.zipWith_append aligned, List.zipWith_cons_cons, ← parts]
  rfl

section

variable {α σ : Type} {expected : String} {fields : List (Field (Except Fault) Draft σ)} {initial : σ}
  {finish : σ → Source.Given → Except Fault α} {settle : Finset String → σ → Option α}

private theorem toOption_array (items : List Draft) :
    (readRecord expected fields initial (.array items) finish).toOption =
      (readPositional 0 fields items initial).toOption.bind fun result => (finish result.1 result.2).toOption := by
  have read : readRecord expected fields initial (.array items) finish =
      readPositional 0 fields items initial >>= fun result => finish result.1 result.2 := rfl
  rw [read, toOption_bind]

private theorem readPositional_surplus (count : Nat) {items : List Draft} (surplus : fields.length < items.length)
    (record : σ) : (readPositional count fields items record).toOption = none := by
  induction fields generalizing count items record with
  | nil =>
    obtain ⟨item, items, rfl⟩ := List.exists_cons_of_length_pos surplus
    rfl
  | cons field fields ih =>
    obtain ⟨item, items, rfl⟩ := List.exists_cons_of_length_pos (Nat.zero_lt_of_lt surplus)
    rw [readPositional, toOption_bind, toOption_within]
    simp only [ih (count + 1) (Nat.lt_of_succ_lt_succ surplus)]
    exact Option.bind_fun_none _

/-- What comes before has been read, and the names of its fields have been noted. -/
private theorem readPositional_eq_foldlM {earlier later : List (Field (Except Fault) Draft σ)}
    (distinct : ((earlier ++ later).map Field.name).Nodup)
    (positional : ∀ count record, (finish record (.positional count)).toOption =
      settle (((earlier ++ later).take count).map Field.name).toFinset record)
    {items : List Draft} (short : items.length ≤ later.length) (record : σ) :
    ((readPositional earlier.length later items record).toOption.bind fun result =>
      (finish result.1 result.2).toOption) =
      ((named (later.map Field.name) items).foldlM (absorbField (earlier ++ later))
        ((earlier.map Field.name).toFinset, record)).bind fun state => settle state.1 state.2 := by
  induction items generalizing earlier later record with
  | nil =>
    have done : readPositional earlier.length later [] record = .ok (record, .positional earlier.length) := by
      cases later <;> rfl
    rw [done, named, List.zipWith_nil_right, toOption_ok, Option.bind_some, positional, List.take_left]
    rfl
  | cons item items ih =>
    cases later with
    | nil => cases short
    | cons field later =>
      have found := find?_name distinct (List.mem_append_right earlier (List.mem_cons_self : field ∈ field :: later))
      have fresh : field.name ∉ earlier.map Field.name := by
        rw [List.map_append, List.map_cons] at distinct
        exact fun again => (List.nodup_append.mp distinct).2.2 _ again _ List.mem_cons_self rfl
      have seen : ((earlier ++ [field]).map Field.name).toFinset =
          insert field.name (earlier.map Field.name).toFinset := by
        rw [List.map_append, List.toFinset_append, Finset.union_comm, Finset.insert_eq]
        rfl
      have step := @ih (earlier ++ [field]) later (by simpa using distinct) (by simpa using positional)
        (Nat.le_of_succ_le_succ short)
      rw [List.length_append, List.length_singleton, List.append_assoc, List.singleton_append, seen] at step
      rw [readPositional, List.map_cons, named_cons, List.foldlM_cons, absorbField_known found, readField,
        if_neg (List.mem_toFinset.not.mpr fresh), toOption_bind, toOption_within]
      simp only [Option.bind_eq_bind, Option.bind_assoc, Option.bind_map, Function.comp_def, step]

theorem toOption_surplus {items : List Draft} (surplus : fields.length < items.length) :
    (readRecord expected fields initial (.array items) finish).toOption = none := by
  rw [toOption_array, readPositional_surplus 0 surplus]
  rfl

/-- An array is read as the object that has its items under the names of the fields. -/
theorem toOption_named (distinct : (fields.map Field.name).Nodup) (settles : Settles finish settle)
    (positional : ∀ count record, (finish record (.positional count)).toOption =
      settle ((fields.take count).map Field.name).toFinset record)
    {items : List Draft} (short : items.length ≤ fields.length) :
    (readRecord expected fields initial (.array items) finish).toOption =
      (readRecord expected fields initial (.object (named (fields.map Field.name) items)) finish).toOption := by
  rw [toOption_array, toOption_record fields initial settles]
  exact @readPositional_eq_foldlM _ _ _ _ [] fields distinct positional items short initial

end

end ApiStyle.Json
