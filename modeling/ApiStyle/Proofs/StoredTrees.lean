import ApiStyle.Json.Decode
import ApiStyle.Proofs.Nesting
import ApiStyle.Proofs.Results
import ApiStyle.Proofs.Tables

/-! Trees as they are stored: each object sorted by key, each number an integer of a word or a double. What a decoder
stores has this form, and a tree of this form is stored as it is, if its containers do not nest too deep. -/

namespace ApiStyle

namespace Numeral

/-- An integer that a word can hold. -/
def IsWord (numeral : Numeral) : Prop := ∃ value, numeral.integer? = some value ∧ fitsWord value = true

/-- A number as it is stored. -/
def IsStored (numeral : Numeral) : Prop := numeral.IsWord ∨ ∃ value : Float, ofFloat? value = some numeral

theorem IsWord.canonical {numeral : Numeral} (word : numeral.IsWord) : numeral.canonical? = some numeral := by
  obtain ⟨value, integer, fits⟩ := word
  rw [canonical?, integer]
  exact if_pos fits

private theorem isStored_of_canonical {numeral stored : Numeral} (canonical : numeral.canonical? = some stored) :
    stored.IsStored := by
  have double : numeral.toFloat?.bind ofFloat? = some stored → stored.IsStored := fun found => by
    obtain ⟨value, _, written⟩ := Option.bind_eq_some_iff.mp found
    exact Or.inr ⟨value, written⟩
  unfold canonical? at canonical
  split at canonical
  next value integer =>
    split at canonical
    next fits =>
      obtain rfl := Option.some.inj canonical
      exact Or.inl ⟨value, integer, fits⟩
    next => exact double canonical
  next => exact double canonical

end Numeral

namespace Json

/-- A tree in the form in which trees are stored, with numbers of some kind. -/
inductive IsStored (number : Numeral → Prop) : Json → Prop
  | null : IsStored number .null
  | bool {value} : IsStored number (.bool value)
  | number {value} : number value → IsStored number (.number value)
  | string {value} : IsStored number (.string value)
  | array {items} : (∀ item ∈ items, IsStored number item) → IsStored number (.array items)
  | object {members} : Table.IsSorted members → (∀ member ∈ members, IsStored number member.2) →
      IsStored number (.object members)

/-- A tree whose numbers are all of some kind. -/
inductive HasNumbers (number : Numeral → Prop) : Json → Prop
  | null : HasNumbers number .null
  | bool {value} : HasNumbers number (.bool value)
  | number {value} : number value → HasNumbers number (.number value)
  | string {value} : HasNumbers number (.string value)
  | array {items} : (∀ item ∈ items, HasNumbers number item) → HasNumbers number (.array items)
  | object {members} : (∀ member ∈ members, HasNumbers number member.2) → HasNumbers number (.object members)

private theorem IsStored.hasNumbers {number : Numeral → Prop} {tree : Json} (stored : tree.IsStored number) :
    tree.HasNumbers number := by
  induction stored with
  | null => exact .null
  | bool => exact .bool
  | number holds => exact .number holds
  | string => exact .string
  | array _ ih => exact .array ih
  | object _ _ ih => exact .object ih

private theorem mem_insertSorted {key : String} {value : Json} {entry : String × Json} {members : List (String × Json)}
    (member : entry ∈ insertSorted key value members) : entry = (key, value) ∨ entry ∈ members := by
  induction members with
  | nil => simpa [insertSorted] using member
  | cons first rest ih =>
    obtain ⟨other, old⟩ := first
    rw [insertSorted] at member
    split at member
    · exact (List.mem_cons.mp member).imp_right (List.mem_cons_of_mem _)
    split at member
    · exact List.mem_cons.mp member
    · rcases List.mem_cons.mp member with rfl | member
      · exact Or.inr List.mem_cons_self
      · exact (ih member).imp_right (List.mem_cons_of_mem _)

private theorem isSorted_insertSorted {key : String} {value : Json} {members : List (String × Json)}
    (sorted : Table.IsSorted members) : Table.IsSorted (insertSorted key value members) := by
  induction members with
  | nil => exact List.pairwise_singleton _ _
  | cons first rest ih =>
    obtain ⟨other, old⟩ := first
    obtain ⟨before, sortedRest⟩ := List.pairwise_cons.mp sorted
    rw [insertSorted]
    split
    next same => exact same ▸ sorted
    next differs =>
      split
      next less =>
        refine List.pairwise_cons.mpr ⟨fun name member => ?_, sorted⟩
        rcases List.mem_cons.mp member with rfl | member
        · exact less
        · exact lt_trans less (before name member)
      next notLess =>
        refine List.pairwise_cons.mpr ⟨fun name member => ?_, ih sortedRest⟩
        obtain ⟨entry, present, rfl⟩ := List.mem_map.mp member
        rcases mem_insertSorted present with rfl | present
        · exact lt_of_le_of_ne (not_lt.mp notLess) (Ne.symm differs)
        · exact before entry.1 (List.mem_map_of_mem present)

private theorem insertSorted_append {key : String} {value : Json} {members : List (String × Json)}
    (last : ∀ entry ∈ members, entry.1 < key) : insertSorted key value members = members ++ [(key, value)] := by
  induction members with
  | nil => rfl
  | cons first rest ih =>
    obtain ⟨other, old⟩ := first
    obtain ⟨less, later⟩ := List.forall_mem_cons.mp last
    rw [insertSorted, if_neg (ne_of_gt less), if_neg (not_lt_of_gt less), ih later, List.cons_append]

private theorem isSorted_sortedMembers {before members : List (String × Json)} (sorted : Table.IsSorted before) :
    Table.IsSorted (sortedMembers before members) := by
  induction members generalizing before with
  | nil => exact sorted
  | cons member members ih => exact ih (isSorted_insertSorted sorted)

theorem mem_sortedMembers {before members : List (String × Json)} {entry : String × Json}
    (member : entry ∈ sortedMembers before members) :
    entry ∈ before ∨ ∃ value, (entry.1, value) ∈ members ∧ entry.2 = sorted value := by
  induction members generalizing before with
  | nil => exact Or.inl member
  | cons first members ih =>
    obtain ⟨key, value⟩ := first
    rcases ih member with inserted | ⟨value, present, same⟩
    · rcases mem_insertSorted inserted with rfl | old
      · exact Or.inr ⟨value, List.mem_cons_self, rfl⟩
      · exact Or.inl old
    · exact Or.inr ⟨value, List.mem_cons_of_mem _ present, same⟩

theorem sortedItems_eq_map (items : List Json) : sortedItems items = items.map sorted := by
  induction items with
  | nil => rfl
  | cons item items ih => rw [sortedItems, ih, List.map_cons]

private theorem sortedMembers_eq_append (before : List (String × Json)) {members : List (String × Json)}
    (isSorted : Table.IsSorted (before ++ members))
    (kept : ∀ member ∈ members, sorted member.2 = member.2) : sortedMembers before members = before ++ members := by
  induction members generalizing before with
  | nil => rw [sortedMembers, List.append_nil]
  | cons member members ih =>
    obtain ⟨key, value⟩ := member
    obtain ⟨same, kept⟩ := List.forall_mem_cons.mp kept
    have last : ∀ entry ∈ before, entry.1 < key := by
      intro entry present
      rw [Table.IsSorted, List.map_append, List.map_cons] at isSorted
      exact (List.pairwise_append.mp isSorted).2.2 _ (List.mem_map_of_mem present) _ List.mem_cons_self
    have same : sorted value = value := same
    rw [sortedMembers, same, insertSorted_append last]
    rw [List.append_cons] at isSorted
    exact (ih _ isSorted kept).trans (List.append_cons before _ members).symm

theorem IsStored.sorted_eq {number : Numeral → Prop} {tree : Json} (stored : tree.IsStored number) :
    sorted tree = tree := by
  induction stored with
  | null | bool | number _ | string => rfl
  | array _ ih => rw [sorted, sortedItems_eq_map, List.map_congr_left ih, List.map_id']
  | object isSorted _ ih => rw [sorted, sortedMembers_eq_append [] isSorted ih, List.nil_append]

theorem HasNumbers.sorted {number : Numeral → Prop} {tree : Json} (numbers : tree.HasNumbers number) :
    tree.sorted.HasNumbers number := by
  induction numbers with
  | null => exact .null
  | bool => exact .bool
  | number holds => exact .number holds
  | string => exact .string
  | array _ ih =>
    rw [Json.sorted, sortedItems_eq_map]
    exact .array (List.forall_mem_map.mpr ih)
  | object _ ih =>
    refine .object fun entry present => ?_
    rcases mem_sortedMembers present with impossible | ⟨value, present, same⟩
    · cases impossible
    · exact same ▸ ih _ present

theorem depth_sorted_le {tree : Json} {bound : Nat} (shallow : tree.depth ≤ bound) : tree.sorted.depth ≤ bound := by
  induction bound generalizing tree with
  | zero =>
    cases tree with
    | array => cases shallow
    | object => cases shallow
    | _ => exact shallow
  | succ bound ih =>
    cases tree with
    | array items =>
      rw [sorted, sortedItems_eq_map, depth_array_le]
      exact List.forall_mem_map.mpr fun item present => ih (depth_array_le.mp shallow item present)
    | object members =>
      refine depth_object_le.mpr fun entry present => ?_
      rcases mem_sortedMembers present with impossible | ⟨value, present, same⟩
      · cases impossible
      · exact same ▸ ih (depth_object_le.mp shallow _ present)
    | _ => exact shallow

namespace Draft

private theorem tree_items {limit : Nat} {items : List Json}
    (each : ∀ item ∈ items, Draft.tree limit item.toDraft = .ok item) (index : Nat) :
    ((toDraftItems items).zipIdx index).mapM
      (fun (item, index) => (Draft.tree limit item).mapError (Fault.under (.item index))) = .ok items := by
  induction items generalizing index with
  | nil => rfl
  | cons item items ih =>
    obtain ⟨first, each⟩ := List.forall_mem_cons.mp each
    rw [toDraftItems, List.zipIdx_cons, List.mapM_cons]
    refine bind_eq_ok.mpr ⟨item, mapError_eq_ok.mpr first, bind_eq_ok.mpr ⟨items, ih each (index + 1), rfl⟩⟩

private theorem tree_members {limit : Nat} {members : List (String × Json)}
    (each : ∀ member ∈ members, Draft.tree limit member.2.toDraft = .ok member.2) (index : Nat) :
    ((toDraftMembers members).zipIdx index).mapM (fun ((key, value), index) => do
      let key ← ofText? key
      let value ← (Draft.tree limit value).mapError (Fault.under (.member index (some key)))
      return (key, value)) = .ok members := by
  induction members generalizing index with
  | nil => rfl
  | cons member members ih =>
    obtain ⟨key, value⟩ := member
    obtain ⟨first, each⟩ := List.forall_mem_cons.mp each
    rw [toDraftMembers, List.zipIdx_cons, List.mapM_cons]
    refine bind_eq_ok.mpr ⟨(key, value), ?_, bind_eq_ok.mpr ⟨members, ih each (index + 1), rfl⟩⟩
    exact bind_eq_ok.mpr ⟨key, rfl, bind_eq_ok.mpr ⟨value, mapError_eq_ok.mpr first, rfl⟩⟩

theorem tree_toDraft {tree : Json} (words : tree.HasNumbers Numeral.IsWord) {limit : Nat}
    (shallow : tree.depth ≤ limit) : Draft.tree limit tree.toDraft = .ok tree := by
  induction words generalizing limit with
  | null | bool | string => cases limit <;> rfl
  | number word =>
    cases limit
    all_goals
      rw [toDraft, Draft.tree, word.canonical]
  | array _ ih =>
    obtain ⟨limit, rfl⟩ : ∃ less, limit = less + 1 := ⟨limit - 1, by rw [depth] at shallow; omega⟩
    have shallow := depth_array_le.mp shallow
    exact bind_eq_ok.mpr ⟨_, tree_items (fun item member => ih item member (shallow item member)) 0, rfl⟩
  | object _ ih =>
    obtain ⟨limit, rfl⟩ : ∃ less, limit = less + 1 := ⟨limit - 1, by rw [depth] at shallow; omega⟩
    have shallow := depth_object_le.mp shallow
    exact bind_eq_ok.mpr ⟨_, tree_members (fun member present => ih member present (shallow member present)) 0, rfl⟩

private theorem of_mem_mapM {ε α β : Type} {body : α → Except ε β} {values : List α} {results : List β}
    (mapped : values.mapM body = .ok results) :
    ∀ result ∈ results, ∃ value ∈ values, body value = .ok result := by
  induction values generalizing results with
  | nil =>
    cases mapped
    exact List.forall_mem_nil _
  | cons value values ih =>
    rw [List.mapM_cons] at mapped
    obtain ⟨first, begun, mapped⟩ := bind_eq_ok.mp mapped
    obtain ⟨rest, others, mapped⟩ := bind_eq_ok.mp mapped
    obtain rfl := Except.ok.inj mapped
    refine List.forall_mem_cons.mpr ⟨⟨value, List.mem_cons_self, begun⟩, fun result member => ?_⟩
    obtain ⟨source, present, same⟩ := ih others result member
    exact ⟨source, List.mem_cons_of_mem _ present, same⟩

private theorem stored_of_scalar {limit : Nat} {draft : Draft} {tree : Json} (read : Draft.tree limit draft = .ok tree)
    (notArray : ∀ items, draft ≠ .array items) (notObject : ∀ members, draft ≠ .object members) :
    (sorted tree).IsStored Numeral.IsStored ∧ (sorted tree).depth ≤ limit := by
  cases draft with
  | null =>
    rw [Draft.tree] at read
    obtain rfl := Except.ok.inj read
    exact ⟨.null, Nat.zero_le _⟩
  | bool value =>
    rw [Draft.tree] at read
    obtain rfl := Except.ok.inj read
    exact ⟨.bool, Nat.zero_le _⟩
  | number numeral =>
    rw [Draft.tree] at read
    split at read
    · cases read
    next stored canonical =>
      obtain rfl := Except.ok.inj read
      exact ⟨.number (Numeral.isStored_of_canonical canonical), Nat.zero_le _⟩
  | string text =>
    rw [Draft.tree] at read
    obtain ⟨value, _, rfl⟩ := map_eq_ok.mp read
    exact ⟨.string, Nat.zero_le _⟩
  | broken =>
    rw [Draft.tree] at read
    cases read
  | array items => exact absurd rfl (notArray items)
  | object members => exact absurd rfl (notObject members)

/-- What is stored of any draft. -/
theorem stored_of_tree {limit : Nat} {draft : Draft} {tree : Json} (read : Draft.tree limit draft = .ok tree) :
    (sorted tree).IsStored Numeral.IsStored ∧ (sorted tree).depth ≤ limit := by
  induction limit generalizing draft tree with
  | zero =>
    cases draft with
    | array => cases read
    | object => cases read
    | _ => exact stored_of_scalar read (by rintro _ ⟨⟩) (by rintro _ ⟨⟩)
  | succ limit ih =>
    cases draft with
    | array items =>
      obtain ⟨trees, mapped, read⟩ := bind_eq_ok.mp read
      obtain rfl := Except.ok.inj read
      have each : ∀ tree ∈ trees, (sorted tree).IsStored Numeral.IsStored ∧ (sorted tree).depth ≤ limit := by
        intro tree member
        obtain ⟨item, _, read⟩ := of_mem_mapM mapped tree member
        exact ih (mapError_eq_ok.mp read)
      rw [sorted, sortedItems_eq_map, depth_array_le]
      exact ⟨.array (List.forall_mem_map.mpr fun tree member => (each tree member).1),
        List.forall_mem_map.mpr fun tree member => (each tree member).2⟩
    | object members =>
      obtain ⟨trees, mapped, read⟩ := bind_eq_ok.mp read
      obtain rfl := Except.ok.inj read
      have each : ∀ member ∈ sortedMembers [] trees, member.2.IsStored Numeral.IsStored ∧ member.2.depth ≤ limit := by
        intro member present
        rcases mem_sortedMembers present with impossible | ⟨value, present, same⟩
        · cases impossible
        · obtain ⟨source, _, read⟩ := of_mem_mapM mapped _ present
          obtain ⟨key, _, read⟩ := bind_eq_ok.mp read
          obtain ⟨found, valueRead, made⟩ := bind_eq_ok.mp read
          obtain ⟨_, rfl⟩ := Prod.mk.inj (Except.ok.inj made)
          rw [same]
          exact ih (mapError_eq_ok.mp valueRead)
      rw [sorted, depth_object_le]
      exact ⟨.object (isSorted_sortedMembers List.Pairwise.nil) fun member present => (each member present).1,
        fun member present => (each member present).2⟩
    | _ => exact stored_of_scalar read (by rintro _ ⟨⟩) (by rintro _ ⟨⟩)

theorem stored_of_json {limit : Nat} {draft : Draft} {tree : Json} (read : Draft.json limit draft = .ok tree) :
    tree.IsStored Numeral.IsStored ∧ tree.depth ≤ limit := by
  obtain ⟨whole, found, rfl⟩ := map_eq_ok.mp read
  exact stored_of_tree found

theorem json_toDraft {tree : Json} (stored : tree.IsStored Numeral.IsWord) {limit : Nat}
    (shallow : tree.depth ≤ limit) :
    Draft.json limit tree.toDraft = .ok tree := by
  rw [Draft.json, tree_toDraft stored.hasNumbers shallow]
  exact congrArg Except.ok stored.sorted_eq

end Draft

end Json

end ApiStyle
