import ApiStyle.Proofs.TreeDecoding
import ApiStyle.Proofs.ViolationText
import ApiStyle.Report.Data

/-! JSON reports lose nothing. Whoever reads the text of one finds each violation in full, told alike by the columns
beside it, and a summary that adds up. A reader may keep objects as they are written or sort them by key. -/

namespace ApiStyle

namespace Numeral

private theorem isWord_ofNat {value : Nat} (small : value < 2 ^ 64) : (ofNat value).IsWord := by
  refine ⟨value, rfl, ?_⟩
  have unsigned : fitsUnsigned wordSize value = true := by
    have below : (value : Int) < (twoTo wordSize : Int) := Int.ofNat_lt.mpr small
    simp [fitsUnsigned, below]
  rw [fitsWord, unsigned, Bool.or_true]

end Numeral

namespace Json

private theorem parse_of_isReadFrom {tree : Json} {text : String} (told : tree.IsReadFrom text)
    (words : tree.HasNumbers Numeral.IsWord) (shallow : tree.depth ≤ nestingLimit) : parse text = .ok tree.sorted := by
  have stored : Draft.json nestingLimit tree.toDraft = .ok tree.sorted := by
    rw [Draft.json, Draft.tree_toDraft words shallow]
    rfl
  rw [parse, decodeText, told]
  exact bind_eq_ok.mpr ⟨tree.sorted, stored, rfl⟩

private theorem lookup_cons_eq (key name : String) (value : Json) (members : List (String × Json)) :
    ((name, value) :: members).lookup key = if key = name then some value else members.lookup key := by
  rw [List.lookup_cons]
  by_cases here : key = name
  · rw [if_pos here, beq_iff_eq.mpr here]
  · rw [if_neg here, beq_eq_false_iff_ne.mpr here]

private theorem lookup_insertSorted (key other : String) (value : Json) (members : List (String × Json)) :
    (insertSorted key value members).lookup other = if other = key then some value else members.lookup other := by
  induction members with
  | nil => exact lookup_cons_eq other key value []
  | cons first rest ih =>
    obtain ⟨name, old⟩ := first
    rw [insertSorted]
    split
    next same =>
      simp only [lookup_cons_eq, ← same]
      by_cases here : other = key <;> simp [here]
    next differs =>
      split
      · simp only [lookup_cons_eq]
      · simp only [lookup_cons_eq, ih]
        by_cases here : other = name
        · have elsewhere : other ≠ key := fun same => differs (same.symm.trans here)
          rw [if_pos here, if_neg elsewhere, if_pos here]
        · simp only [if_neg here]

private theorem lookup_sortedMembers (before : List (String × Json)) {members : List (String × Json)}
    (distinct : (members.map Prod.fst).Nodup) (key : String) :
    (sortedMembers before members).lookup key = ((members.lookup key).map sorted).or (before.lookup key) := by
  induction members generalizing before with
  | nil => rfl
  | cons member members ih =>
    obtain ⟨name, value⟩ := member
    obtain ⟨absent, distinct⟩ := List.nodup_cons.mp distinct
    rw [sortedMembers, ih _ distinct, lookup_insertSorted, lookup_cons_eq]
    by_cases here : key = name
    · subst here
      have later : members.lookup key = none := by
        refine Option.eq_none_iff_forall_ne_some.mpr fun _ found => absent ?_
        exact List.mem_map.mpr ⟨_, Table.mem_of_lookup found, rfl⟩
      rw [later, if_pos rfl, if_pos rfl]
      rfl
    · rw [if_neg here, if_neg here]

theorem nodup_present {members : List (String × Option Json)} (distinct : (members.map Prod.fst).Nodup) :
    ((present members).map Prod.fst).Nodup := by
  have some_of_members : ((present members).map Prod.fst).Sublist (members.map Prod.fst) := by
    clear distinct
    induction members with
    | nil => exact .slnil
    | cons member members ih =>
      obtain ⟨key, value⟩ := member
      cases value with
      | none => exact ih.cons key
      | some value => exact ih.cons_cons key
  exact some_of_members.nodup distinct

private theorem HasNumbers.record {number : Numeral → Prop} {members : List (String × Option Json)}
    (each : ∀ member ∈ members, ∀ value, member.2 = some value → value.HasNumbers number) :
    (Json.record members).HasNumbers number := by
  refine .object fun member present => ?_
  obtain ⟨⟨key, value⟩, listed, found⟩ := List.mem_filterMap.mp present
  obtain ⟨value, rfl, rfl⟩ := Option.map_eq_some_iff.mp found
  exact each (key, some value) listed value rfl

private theorem lookup_present {members : List (String × Option Json)} (distinct : (members.map Prod.fst).Nodup)
    (key : String) : (present members).lookup key = (members.lookup key).join := by
  refine Option.ext fun value => ?_
  rw [Table.lookup_eq_some_iff (nodup_present distinct), Option.join_eq_some_iff, Table.lookup_eq_some_iff distinct]
  simp [present]

/-- A way of keeping trees that loses nothing that a decoder or a search for a member could find. -/
structure Faithful (view : Json → Json) : Prop where
  bool : ∀ value, view (.bool value) = .bool value
  number : ∀ value, view (.number value) = .number value
  string : ∀ value, view (.string value) = .string value
  array : ∀ items, view (.array items) = .array (items.map view)
  member : ∀ members, (members.map Prod.fst).Nodup → ∀ key,
    (view (.object members)).member? key = (members.lookup key).map view
  violation : ∀ violation : Violation, Violation.decode (view violation.toJson).toDraft = .ok violation

private theorem faithful_id : Faithful id where
  bool _ := rfl
  number _ := rfl
  string _ := rfl
  array items := by rw [List.map_id]; rfl
  member members _ key := (congrFun Option.map_id (members.lookup key)).symm
  violation violation := violation.decode_toJson.1

private theorem faithful_sorted : Faithful sorted where
  bool _ := rfl
  number _ := rfl
  string _ := rfl
  array items := by rw [sorted, sortedItems_eq_map]
  member members distinct key := by
    rw [sorted, member?, lookup_sortedMembers [] distinct]
    exact Option.or_none
  violation violation := violation.decode_toJson.2

private theorem Faithful.record {view : Json → Json} (faithful : Faithful view) {members : List (String × Option Json)}
    (distinct : (members.map Prod.fst).Nodup) (key : String) :
    (view (Json.record members)).member? key = (members.lookup key).join.map view := by
  rw [← lookup_present distinct]
  exact faithful.member (present members) (nodup_present distinct) key

end Json

namespace Report

/-- An entry holds a violation in full, and its columns say what that violation says. -/
structure Tells (entry : Json) (violation : Violation) : Prop where
  detail : ∃ tree, entry.member? "detail" = some tree ∧ Violation.decode tree.toDraft = .ok violation
  rule : entry.member? "rule" = some (.string violation.pass.id)
  part : entry.member? "section" = some (.string violation.part.name)
  field : entry.member? "field" = some (.string violation.field)
  message : entry.member? "message" = some (.string violation.message)
  location : entry.member? "location" = violation.place.map .string

/-- A row of the summary counts the violations of a part. -/
structure Counts (violations : List Violation) (row : Json) (part : Section) : Prop where
  name : row.member? "section" = some (.string part.name)
  count : row.member? "count" = some (.nat (violations.countP (·.part = part)))

/-- The counts of the parts add up to the number of all violations. -/
structure Sums (summary : Json) (violations : List Violation) : Prop where
  total : summary.member? "total" = some (.nat violations.length)
  parts : ∃ rows, summary.member? "by_section" = some (.array rows) ∧
    List.Forall₂ (Counts violations) rows Section.all
  adds : (Section.all.map fun part => violations.countP (·.part = part)).sum = violations.length

/-- A report accounts for a list of violations, one entry for each in their order. -/
structure Accounts (report : Json) (path : String) (violations : List Violation) : Prop where
  path : report.member? "path" = some (.string path)
  passed : ∃ value, report.member? "passed" = some (.bool value) ∧ (value = true ↔ violations = [])
  entries : ∃ entries, report.member? "violations" = some (.array entries) ∧ List.Forall₂ Tells entries violations
  summary : ∃ summary, report.member? "summary" = some summary ∧ Sums summary violations

private theorem tells_violationJson {view : Json → Json} (faithful : Json.Faithful view) (violation : Violation) :
    Tells (view (violationJson violation)) violation := by
  have column (key : String) : (view (violationJson violation)).member? key = _ := faithful.record (by simp) key
  have location : (violation.place.map Json.string).map view = violation.place.map Json.string := by
    rw [Option.map_map]
    exact congrArg (violation.place.map ·) (funext faithful.string)
  constructor
  · exact ⟨_, column "detail", faithful.violation violation⟩
  · exact (column "rule").trans (congrArg some (faithful.string _))
  · exact (column "section").trans (congrArg some (faithful.string _))
  · exact (column "field").trans (congrArg some (faithful.string _))
  · exact (column "message").trans (congrArg some (faithful.string _))
  · exact (column "location").trans location

private theorem counts_sectionJson {view : Json → Json} (faithful : Json.Faithful view) (violations : List Violation)
    (part : Section) : Counts violations (view (sectionJson violations part)) part := by
  have column (key : String) : (view (sectionJson violations part)).member? key = _ := faithful.member _ (by simp) key
  constructor
  · exact (column "section").trans (congrArg some (faithful.string _))
  · exact (column "count").trans (congrArg some (faithful.number _))

theorem sum_parts (violations : List Violation) :
    (Section.all.map fun part => violations.countP (·.part = part)).sum = violations.length := by
  induction violations with
  | nil => rfl
  | cons violation violations ih =>
    simp only [Section.all, List.map_cons, List.map_nil, List.sum_cons, List.sum_nil, List.countP_cons,
      List.length_cons] at ih ⊢
    cases violation.part <;> simp <;> omega

private theorem sums_json {view : Json → Json} (faithful : Json.Faithful view) (violations : List Violation) :
    Sums (view (.object [("total", .nat violations.length),
      ("by_section", .array (Section.all.map (sectionJson violations)))])) violations := by
  have column := faithful.member [("total", .nat violations.length),
    ("by_section", .array (Section.all.map (sectionJson violations)))] (by simp)
  constructor
  · exact (column "total").trans (congrArg some (faithful.number _))
  · refine ⟨_, (column "by_section").trans (congrArg some (faithful.array _)), ?_⟩
    rw [List.map_map, List.forall₂_map_left_iff, List.forall₂_same]
    exact fun part _ => counts_sectionJson faithful violations part
  · exact sum_parts violations

private theorem accounts_json {view : Json → Json} (faithful : Json.Faithful view) (path : String)
    (violations : List Violation) : Accounts (view (json path violations)) path violations := by
  have column (key : String) : (view (json path violations)).member? key = _ := faithful.member _ (by simp) key
  constructor
  · exact (column "path").trans (congrArg some (faithful.string _))
  · exact ⟨_, (column "passed").trans (congrArg some (faithful.bool _)), List.isEmpty_iff⟩
  · refine ⟨_, (column "violations").trans (congrArg some (faithful.array _)), ?_⟩
    rw [List.map_map, List.forall₂_map_left_iff, List.forall₂_same]
    exact fun violation _ => tells_violationJson faithful violation
  · exact ⟨_, column "summary", sums_json faithful violations⟩

private theorem hasNumbers_violationJson (violation : Violation) :
    (violationJson violation).HasNumbers Numeral.IsWord := by
  refine Json.HasNumbers.record ?_
  simp only [List.forall_mem_cons]
  refine ⟨?_, ?_, ?_, ?_, ?location, ?detail, List.forall_mem_nil _⟩
  case location =>
    intro value located
    obtain ⟨place, _, rfl⟩ := Option.map_eq_some_iff.mp located
    exact .string
  case detail =>
    rintro _ ⟨⟩
    exact violation.hasNumbers_toJson
  all_goals
    rintro _ ⟨⟩
    exact .string

private theorem hasNumbers_json (path : String) {violations : List Violation} (countable : violations.length < 2 ^ 64) :
    (json path violations).HasNumbers Numeral.IsWord := by
  have row (part : Section) : (sectionJson violations part).HasNumbers Numeral.IsWord := by
    have counted : (Json.nat (countIn part violations)).HasNumbers Numeral.IsWord :=
      .number (Numeral.isWord_ofNat (Nat.lt_of_le_of_lt List.countP_le_length countable))
    refine .object ?_
    simp only [List.forall_mem_cons]
    exact ⟨.string, counted, List.forall_mem_nil _⟩
  have summary : (Json.object [("total", .nat violations.length),
      ("by_section", .array (Section.all.map (sectionJson violations)))]).HasNumbers Numeral.IsWord := by
    refine .object ?_
    simp only [List.forall_mem_cons]
    exact ⟨.number (Numeral.isWord_ofNat countable), .array (List.forall_mem_map.mpr fun part _ => row part),
      List.forall_mem_nil _⟩
  refine .object ?_
  simp only [List.forall_mem_cons]
  refine ⟨.string, .bool, .array ?_, summary, List.forall_mem_nil _⟩
  exact List.forall_mem_map.mpr fun violation _ => hasNumbers_violationJson violation

private theorem depth_violationJson_le (violation : Violation) : (violationJson violation).depth ≤ 3 := by
  refine Json.depth_record_le.mpr ?_
  simp only [List.forall_mem_cons]
  refine ⟨?_, ?_, ?_, ?_, ?location, ?detail, List.forall_mem_nil _⟩
  case location => exact Json.depth_map_le (fun _ => Nat.zero_le 2) violation.place
  case detail =>
    rintro _ ⟨⟩
    exact violation.depth_toJson_le
  all_goals
    rintro _ ⟨⟩
    exact Nat.zero_le 2

private theorem depth_json_le (path : String) (violations : List Violation) : (json path violations).depth ≤ 5 := by
  have row (part : Section) : (sectionJson violations part).depth ≤ 2 := Nat.le_of_ble_eq_true rfl
  refine Json.depth_object_le.mpr ?_
  simp only [List.forall_mem_cons]
  refine ⟨Nat.zero_le 4, Nat.zero_le 4, ?_, ?_, List.forall_mem_nil _⟩
  · exact Json.depth_array_le.mpr (List.forall_mem_map.mpr fun violation _ => depth_violationJson_le violation)
  · refine Json.depth_object_le.mpr ?_
    simp only [List.forall_mem_cons]
    exact ⟨Nat.zero_le 3, Json.depth_array_le.mpr (List.forall_mem_map.mpr fun part _ => row part),
      List.forall_mem_nil _⟩

/-- Whatever texts the path and the violations hold, the tree that the text of a report is read as accounts for them,
and so does the tree that is stored of it, as long as a word can count them. -/
theorem json_read_back (path : String) (violations : List Violation) :
    (∃ report, report.IsReadFrom (json path violations).prettyText ∧ Accounts report path violations) ∧
    (violations.length < 2 ^ 64 →
      ∃ stored, Json.parse (json path violations).prettyText = .ok stored ∧ Accounts stored path violations) := by
  have told : (json path violations).IsReadFrom ((json path violations).prettyText ++ "") :=
    Json.isReadFrom_prettyText _ Json.Blank.nil
  rw [String.append_empty] at told
  refine ⟨⟨_, told, accounts_json Json.faithful_id path violations⟩, fun countable => ?_⟩
  have shallow : (json path violations).depth ≤ Json.nestingLimit :=
    Nat.le_trans (depth_json_le path violations) (by decide)
  exact ⟨_, Json.parse_of_isReadFrom told (hasNumbers_json path countable) shallow,
    accounts_json Json.faithful_sorted path violations⟩

/-- A report of a name that has to be escaped. -/
theorem quoted_name_read_back :
    [Violation.naming "\"\n" .property .notUnique (.model "Pet")].length < 2 ^ 64 ∧
    ∃ stored,
      Json.parse (json "api.json" [.naming "\"\n" .property .notUnique (.model "Pet")]).prettyText = .ok stored ∧
      Accounts stored "api.json" [.naming "\"\n" .property .notUnique (.model "Pet")] :=
  ⟨by decide, (json_read_back "api.json" [.naming "\"\n" .property .notUnique (.model "Pet")]).2 (by decide)⟩

end Report

end ApiStyle
