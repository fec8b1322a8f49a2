import ApiStyle.Failure
import ApiStyle.Proofs.DecodingLogic
import ApiStyle.Rules.Layers

/-! The switches of a patch come in the order of their names, each name once, whatever the order of the text they
were read from. So the last switch for a rule is the one whose name is the greatest. -/

namespace ApiStyle

namespace Toml

instance : Observed (Except Fault) Node where
  Returns program value := program = .ok value
  of_pure returned := (Except.ok.inj returned).symm
  of_bind returned := bind_eq_ok.mp returned
  of_locating returned := mapError_eq_ok.mp returned
  of_within returned := returned
  not_refuse returned := by cases returned

namespace Node

/-- Entries by the order of their names. -/
def InOrder (entries : Entries) : Prop := entries.Pairwise fun first second => first.1.name ≤ second.1.name

private theorem mem_insertSorted {entry other : Key × Place × Item} {entries : Entries}
    (member : other ∈ insertSorted entry entries) : other = entry ∨ other ∈ entries := by
  induction entries with
  | nil => simpa [insertSorted] using member
  | cons first rest ih =>
    rw [insertSorted] at member
    split at member
    · exact List.mem_cons.mp member
    · rcases List.mem_cons.mp member with found | member
      · exact Or.inr (found ▸ List.mem_cons_self)
      · exact (ih member).imp_right (List.mem_cons_of_mem _)

private theorem inOrder_insertSorted {entry : Key × Place × Item} {entries : Entries} (ordered : InOrder entries) :
    InOrder (insertSorted entry entries) := by
  induction entries with
  | nil => exact List.pairwise_singleton _ _
  | cons first rest ih =>
    obtain ⟨before, rest⟩ := List.pairwise_cons.mp ordered
    rw [insertSorted]
    split
    next less =>
      refine List.pairwise_cons.mpr ⟨fun other member => ?_, ordered⟩
      rcases List.mem_cons.mp member with rfl | member
      · exact le_of_lt less
      · exact le_trans (le_of_lt less) (before other member)
    next notLess =>
      refine List.pairwise_cons.mpr ⟨fun other member => ?_, ih rest⟩
      rcases mem_insertSorted member with rfl | member
      · exact not_lt.mp notLess
      · exact before other member

private theorem inOrder_sorted (entries : Entries) : InOrder (sorted entries) := by
  have folded : ∀ (entries done : Entries), InOrder done →
      InOrder (entries.foldl (fun done entry => insertSorted entry done) done) := by
    intro entries
    induction entries with
    | nil => exact fun _ ordered => ordered
    | cons entry rest ih => exact fun done ordered => ih _ (inOrder_insertSorted ordered)
  exact folded entries [] List.Pairwise.nil

private theorem tableFrom_sorted {decode : Node → Except Fault α} {entries : Entries} (ordered : InOrder entries)
    (index : Nat) {table : List (String × α)} (sorted : Table.IsSorted table)
    (later : ∀ held ∈ table, ∀ entry ∈ entries, held.1 ≤ entry.1.name) :
    Ensures (Source.tableFrom decode (entriesFrom index entries) table) Table.IsSorted := by
  induction entries generalizing index table with
  | nil => exact Ensures.pure sorted
  | cons entry rest ih =>
    obtain ⟨key, place, item⟩ := entry
    obtain ⟨before, rest⟩ := List.pairwise_cons.mp ordered
    have named : Ensures (.ok key.name : Except Fault String) (· = key.name) :=
      fun _ returned => (Except.ok.inj returned).symm
    refine named.bind ?_
    rintro _ rfl
    refine Ensures.after fun value => ih rest (index + 1)
      (sorted.put fun held member => later held member _ List.mem_cons_self) ?_
    intro held member entry present
    rcases Table.mem_put member with rfl | member
    · exact before entry present
    · exact later held member entry (List.mem_cons_of_mem _ present)

private theorem mismatch_returns_nothing {expected : String} {node : Node} {value : α} :
    mismatch expected node ≠ .ok value := by
  intro returned
  obtain ⟨_, _, impossible⟩ := bind_eq_ok.mp returned
  cases impossible

private theorem table_sorted (decode : Node → Except Fault α) (node : Node) :
    Ensures (Source.table decode node) Table.IsSorted := by
  refine Ensures.after fun node => Ensures.locating ?_
  intro table returned
  obtain ⟨entries, found, returned⟩ := Observed.of_bind returned
  change Node.entries "a map" node = .ok entries at found
  unfold Node.entries at found
  split at found
  · obtain rfl := Except.ok.inj found
    exact tableFrom_sorted (inOrder_sorted _) 0 Table.IsSorted.nil (by simp) table returned
  · exact absurd found mismatch_returns_nothing

end Node

end Toml

namespace Patch

private theorem decode_sorted (node : Toml.Node) :
    Ensures (decode (m := Except Toml.Fault) node) fun patch => Table.IsSorted patch.switches := by
  refine Ensures.readRecordWith (fun patch => Table.IsSorted patch.switches) Table.IsSorted.nil ?_
    fun patch given kept => Ensures.after fun _ => Ensures.pure kept
  simp only [List.forall_mem_cons]
  refine ⟨?_, ?_, ?_, by simp⟩
  · intro node patch _
    refine (Ensures.optional (Toml.Node.table_sorted Source.flag)).bind fun found sorted => Ensures.pure ?_
    cases found with
    | none => exact Table.IsSorted.nil
    | some switches => exact sorted switches rfl
  all_goals exact fun node patch kept => Ensures.after fun _ => Ensures.pure kept

/-- A patch that was read has its switches in the order of their names. -/
theorem sorted_of_ofToml {text : String} {patch : Patch} (read : ofToml text = .ok patch) :
    Table.IsSorted patch.switches := by
  obtain ⟨entries, _, decoded⟩ := bind_eq_ok.mp (mapError_eq_ok.mp read)
  exact decode_sorted _ patch decoded

end Patch

end ApiStyle
