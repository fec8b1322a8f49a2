import ApiStyle.Document.Decode
import ApiStyle.Json.Decode
import ApiStyle.Proofs.Results
import Mathlib.Data.Finset.Insert
import Mathlib.Data.List.Perm.Basic
import Mathlib.Data.List.Dedup
import Mathlib.Data.List.Pairwise

/-! What decoders make of objects and arrays, once it does not matter why they refuse. Then an object is folded member
by member, and three things can be said of any such fold: where members commute their order does not matter, a member
without effect can be left out, and a member can be replaced by one with the same effect. -/

namespace ApiStyle

namespace MemberFold

variable {α β : Type} {step : β → α → Option β}

theorem perm (commute : ∀ state first second,
    (step state first).bind (step · second) = (step state second).bind (step · first))
    {members others : List α} (permuted : members.Perm others) (state : β) :
    members.foldlM step state = others.foldlM step state := by
  have commutative : RightCommutative fun (state : Option β) member => state >>= fun state => step state member := by
    constructor
    intro state first second
    cases state with
    | none => rfl
    | some state => exact commute state first second
  rw [List.foldlM_eq_foldl, List.foldlM_eq_foldl, permuted.foldl_eq]

theorem insert {member : α} (idle : ∀ state, step state member = some state) (before after : List α) (state : β) :
    (before ++ member :: after).foldlM step state = (before ++ after).foldlM step state := by
  simp only [List.foldlM_append, List.foldlM_cons, idle, Option.bind_eq_bind, Option.bind_some]

theorem replace {member other : α} (same : ∀ state, step state member = step state other) (before after : List α)
    (state : β) : (before ++ member :: after).foldlM step state = (before ++ other :: after).foldlM step state := by
  simp only [List.foldlM_append, List.foldlM_cons, same]

end MemberFold

namespace Json

open Source

variable {α β σ : Type}

abbrev Member := Except Malformed String × Draft

theorem toOption_key (key : Except Malformed String) : (Draft.ofText? key).toOption = key.toOption := toOption_mapError

theorem toOption_within (step : Step) (program : Except Fault α) : (within step program).toOption = program.toOption :=
  toOption_mapError

theorem skip_of_whole {value : Draft} (whole : value.firstFault = none) : Draft.skip value = .ok () := by
  rw [Draft.skip, whole]

theorem toOption_optional {decode : Draft → Except Fault α} {tree : Draft}
    (present : absent (m := Except Fault) tree = .ok false) :
    (Source.optional decode tree).toOption = (decode tree).toOption.map some := by
  have resolved : (resolve tree : Except Fault Draft).toOption = some tree := rfl
  have there : (absent (m := Except Fault) tree).toOption = some false := by
    rw [present]
    rfl
  rw [Source.optional, toOption_bind, resolved, Option.bind_some, toOption_bind, there]
  cases decode tree <;> rfl

namespace Draft

theorem mismatch_returns_nothing {α : Type} {expected : String} {draft : Draft} {value : α} :
    mismatch expected draft ≠ .ok value := by
  intro returned
  cases draft with
  | number numeral =>
    obtain ⟨_, _, impossible⟩ := bind_eq_ok.mp returned
    cases impossible
  | string text => cases text <;> cases returned
  | _ => cases returned

theorem tooDeep_returns_nothing {α : Type} {value : α} : tooDeep ≠ .ok value := by
  intro returned
  cases returned

private theorem eq_object_of_entries {expected : String} {draft : Draft} {found : List (Entry (Except Fault) Draft)}
    (opened : entries expected draft = .ok found) : ∃ members, draft = .object members := by
  unfold entries at opened
  split at opened
  next members => exact ⟨members, rfl⟩
  next => exact absurd opened mismatch_returns_nothing

theorem container_of_record {expected : String} {draft : Draft} {fields : Fields (Except Fault) Draft}
    (opened : record expected draft = .ok fields) :
    (∃ members, draft = .object members) ∨ ∃ items, draft = .array items := by
  unfold record at opened
  split at opened
  next members => exact .inl ⟨members, rfl⟩
  next items => exact .inr ⟨items, rfl⟩
  next => exact absurd opened mismatch_returns_nothing

/-- Where no more containers may nest, schemas are refused, and so are their properties. -/
theorem schema_at_limit (draft : Draft) (schema : Schema) :
    (Schema.decode 0 draft : Except Fault Schema) ≠ .ok schema := by
  intro read
  obtain ⟨_, _, read⟩ := bind_eq_ok.mp read
  obtain ⟨_, opened, read⟩ := bind_eq_ok.mp read
  obtain ⟨_, allowed, _⟩ := bind_eq_ok.mp read
  rcases container_of_record opened with ⟨_, rfl⟩ | ⟨_, rfl⟩
  · exact tooDeep_returns_nothing allowed
  · exact tooDeep_returns_nothing allowed

theorem properties_at_limit {α : Type} (draft : Draft) (result value : α) :
    (do
      let draft ← resolve draft
      let _ ← Source.entries (m := Except Fault) "a map" draft
      Source.leaf draft
      return result) ≠ Except.ok value := by
  intro read
  obtain ⟨_, _, read⟩ := bind_eq_ok.mp read
  obtain ⟨_, opened, read⟩ := bind_eq_ok.mp read
  obtain ⟨_, allowed, _⟩ := bind_eq_ok.mp read
  obtain ⟨_, rfl⟩ := eq_object_of_entries opened
  exact tooDeep_returns_nothing allowed

end Draft

private theorem itemsFrom_eq_mapM (decode : Draft → Except Fault α) (index : Nat) (items : List Draft) :
    (itemsFrom decode index items).toOption = items.mapM fun item => (decode item).toOption := by
  induction items generalizing index with
  | nil => rfl
  | cons item items ih =>
    rw [itemsFrom, List.mapM_cons]
    simp only [toOption_bind, toOption_within, ih, Option.bind_eq_bind]
    rfl

theorem toOption_sequence (decode : Draft → Except Fault α) (items : List Draft) :
    (sequence decode (.array items)).toOption = items.mapM fun item => (decode item).toOption :=
  itemsFrom_eq_mapM decode 0 items

def absorbEntry (decode : Draft → Except Fault α) (table : List (String × α)) (member : Member) :
    Option (List (String × α)) := do
  let key ← member.1.toOption
  let value ← (decode member.2).toOption
  return Table.put key value table

private theorem tableFrom_eq_foldlM (decode : Draft → Except Fault α) (index : Nat) (members : List Member)
    (before : List (String × α)) : (tableFrom decode (Draft.entriesFrom index members) before).toOption =
      members.foldlM (absorbEntry decode) before := by
  induction members generalizing index before with
  | nil => rfl
  | cons member members ih =>
    rw [Draft.entriesFrom, tableFrom, List.foldlM_cons, absorbEntry]
    simp only [toOption_bind, toOption_within, toOption_key, ih, Option.bind_eq_bind, Option.bind_assoc,
      Option.pure_def, Option.bind_some]

theorem toOption_table (decode : Draft → Except Fault α) (members : List Member) :
    (table decode (.object members)).toOption = members.foldlM (absorbEntry decode) [] :=
  tableFrom_eq_foldlM decode 0 members []

def absorbPath (paths : List (String × PathItem)) (member : Member) : Option (List (String × PathItem)) := do
  let key ← member.1.toOption
  if Paths.isExtension key then (Draft.skip member.2).toOption.map fun _ => paths
  else do
    let item ← (PathItem.decode member.2 : Except Fault PathItem).toOption
    if key ∈ paths.map Prod.fst then none else return paths ++ [(key, item)]

private theorem pathsFrom_eq_foldlM (index : Nat) (members : List Member) (before : List (String × PathItem)) :
    (Paths.decodeFrom index (Draft.entriesFrom index members) before).toOption =
      members.foldlM absorbPath before := by
  induction members generalizing index before with
  | nil => rfl
  | cons member members ih =>
    obtain ⟨key, value⟩ := member
    rw [Draft.entriesFrom, Paths.decodeFrom, List.foldlM_cons, absorbPath]
    simp only [toOption_bind, toOption_key, Option.bind_eq_bind, Option.bind_assoc]
    congr 1
    funext key
    split
    · have skipped : skip (m := Except Fault) value = Draft.skip value := rfl
      rw [toOption_bind, skipped, Option.bind_map]
      congr 1
      funext _
      exact ih (index + 1) before
    · rw [toOption_bind, toOption_within, Option.bind_assoc]
      congr 1
      funext item
      split
      · rfl
      · exact ih (index + 1) (before ++ [(key, item)])

theorem toOption_paths (members : List Member) :
    (Paths.decode (.object members) : Except Fault _).toOption = members.foldlM absorbPath [] :=
  pathsFrom_eq_foldlM 0 members []

theorem absorbPath_extension {key : String} {value : Draft} (marked : Paths.isExtension key = true)
    (whole : value.firstFault = none) (paths : List (String × PathItem)) :
    absorbPath paths (.ok key, value) = some paths := by
  simp only [absorbPath, toOption_ok, Option.bind_eq_bind, Option.bind_some, marked, if_true, skip_of_whole whole,
    Option.map_some]

theorem absorbPath_template {key : String} (kept : Paths.isExtension key = false) (value : Draft)
    (paths : List (String × PathItem)) : absorbPath paths (.ok key, value) =
      (PathItem.decode value : Except Fault PathItem).toOption.bind fun item =>
        if key ∈ paths.map Prod.fst then none else some (paths ++ [(key, item)]) := by
  simp only [absorbPath, toOption_ok, Option.bind_eq_bind, Option.bind_some, kept, Bool.false_eq_true, if_false,
    Option.pure_def]

/-- Reads a field that was not given before, and notes its name. -/
def readField (field : Field (Except Fault) Draft σ) (value : Draft) (state : Finset String × σ) :
    Option (Finset String × σ) :=
  if field.name ∈ state.1 then none else (field.read value state.2).toOption.map ((insert field.name state.1, ·))

def absorbField (fields : List (Field (Except Fault) Draft σ)) (state : Finset String × σ) (member : Member) :
    Option (Finset String × σ) := do
  let key ← member.1.toOption
  match fields.find? (·.name = key) with
  | none => (Draft.skip member.2).toOption.map fun _ => state
  | some field => readField field member.2 state

/-- What is made of a record depends on which names were given, but not on their order. -/
def Settles (finish : σ → Source.Given → Except Fault α) (settle : Finset String → σ → Option α) : Prop :=
  ∀ names record, (finish record (.named names)).toOption = settle names.toFinset record

theorem settles_defaulted :
    Settles (fun (record : σ) _ => (pure record : Except Fault σ)) fun _ record => some record :=
  fun _ _ => rfl

private theorem readNamed_eq_foldlM (fields : List (Field (Except Fault) Draft σ))
    {finish : σ → Source.Given → Except Fault α} {settle : Finset String → σ → Option α}
    (settles : Settles finish settle) (index : Nat) (members : List Member) (seen : List String) (record : σ) :
    ((readNamed .skipped fields index (Draft.entriesFrom index members) seen record).toOption.bind fun result =>
      (finish result.1 result.2).toOption) =
      (members.foldlM (absorbField fields) (seen.toFinset, record)).bind fun state => settle state.1 state.2 := by
  induction members generalizing index seen record with
  | nil => exact settles seen record
  | cons member members ih =>
    obtain ⟨key, value⟩ := member
    rw [Draft.entriesFrom, readNamed, List.foldlM_cons, absorbField]
    simp only [toOption_bind, toOption_key, Option.bind_eq_bind, Option.bind_assoc]
    congr 1
    funext key
    cases found : fields.find? (·.name = key) with
    | none =>
      have skipped : skip (m := Except Fault) value = Draft.skip value := rfl
      simp only [toOption_bind, Option.bind_assoc, ih, Option.bind_map, skipped]
      rfl
    | some field =>
      have named : field.name = key := by simpa using List.find?_some found
      by_cases repeated : key ∈ seen
      · simp only [readField, named, repeated, List.mem_toFinset, if_true]
        rfl
      · simp only [readField, named, repeated, List.mem_toFinset, if_false, toOption_bind, toOption_within,
          Option.bind_assoc, ih, List.toFinset_cons, Option.bind_map]
        rfl

theorem toOption_record {expected : String} (fields : List (Field (Except Fault) Draft σ)) (initial : σ)
    {finish : σ → Source.Given → Except Fault α} {settle : Finset String → σ → Option α}
    (settles : Settles finish settle) (members : List Member) :
    (readRecord expected fields initial (.object members) finish).toOption =
      (members.foldlM (absorbField fields) (∅, initial)).bind fun state => settle state.1 state.2 := by
  have read := readNamed_eq_foldlM fields settles 0 members [] initial
  rw [← toOption_bind] at read
  exact read

/-- Two fields of a record that may be read in either order. -/
def Commute (first second : Field (Except Fault) Draft σ) : Prop :=
  ∀ node other record, ((first.read node record).toOption.bind fun record => (second.read other record).toOption) =
    (second.read other record).toOption.bind fun record => (first.read node record).toOption

theorem Commute.symm {first second : Field (Except Fault) Draft σ} (commute : Commute first second) :
    Commute second first :=
  fun node other record => (commute other node record).symm

theorem Commute.of_maps {name nameToo : String} {decode : Draft → Except Fault α} {decodeToo : Draft → Except Fault β}
    {put : α → σ → σ} {putToo : β → σ → σ}
    (apart : ∀ value valueToo record, putToo valueToo (put value record) = put value (putToo valueToo record)) :
    Commute ⟨name, fun node record => (fun value => put value record) <$> decode node⟩
      ⟨nameToo, fun node record => (fun value => putToo value record) <$> decodeToo node⟩ := by
  intro node other record
  dsimp only
  cases decode node with
  | error fault => cases decodeToo other <;> rfl
  | ok value =>
    cases decodeToo other with
    | error fault => rfl
    | ok valueToo => exact congrArg some (apart value valueToo record)

theorem absorbField_unknown {fields : List (Field (Except Fault) Draft σ)} {key : String}
    (absent : fields.find? (·.name = key) = none) (value : Draft) (state : Finset String × σ) :
    absorbField fields state (.ok key, value) = (Draft.skip value).toOption.map fun _ => state := by
  simp only [absorbField, toOption_ok, Option.bind_eq_bind, Option.bind_some, absent]

theorem absorbField_known {fields : List (Field (Except Fault) Draft σ)} {key : String}
    {field : Field (Except Fault) Draft σ} (found : fields.find? (·.name = key) = some field) (value : Draft)
    (state : Finset String × σ) : absorbField fields state (.ok key, value) = readField field value state := by
  simp only [absorbField, toOption_ok, Option.bind_eq_bind, Option.bind_some, found]

private theorem readField_twice (field other : Field (Except Fault) Draft σ) (value valueToo : Draft)
    (state : Finset String × σ) : (readField field value state).bind (readField other valueToo) =
      if field.name ∈ state.1 ∨ other.name ∈ state.1 ∨ field.name = other.name then none
      else ((field.read value state.2).toOption.bind fun record => (other.read valueToo record).toOption).map
        ((insert other.name (insert field.name state.1), ·)) := by
  obtain ⟨seen, record⟩ := state
  by_cases here : field.name ∈ seen
  · simp [readField, here]
  · have again : other.name ∈ insert field.name seen ↔ other.name ∈ seen ∨ field.name = other.name := by
      rw [Finset.mem_insert, or_comm, eq_comm]
    simp only [readField, here, if_false, false_or, Option.bind_map, Function.comp_def, again]
    split
    · exact Option.bind_fun_none _
    · rw [Option.map_bind]
      rfl

/-- The same name twice stops the reading in either order; different names commute. -/
theorem readField_comm {fields : List (Field (Except Fault) Draft σ)} (commute : fields.Pairwise Commute)
    {field other : Field (Except Fault) Draft σ} (member : field ∈ fields) (memberToo : other ∈ fields)
    (value valueToo : Draft) (state : Finset String × σ) :
    (readField field value state).bind (readField other valueToo) =
      (readField other valueToo state).bind (readField field value) := by
  have told : (field.name ∈ state.1 ∨ other.name ∈ state.1 ∨ field.name = other.name) ↔
      (other.name ∈ state.1 ∨ field.name ∈ state.1 ∨ other.name = field.name) := by
    rw [or_left_comm, @eq_comm _ field.name]
  rw [readField_twice, readField_twice, Finset.insert_comm]
  simp only [told]
  split
  · rfl
  next apart =>
    have symmetric : Std.Symm (@Commute σ) := ⟨fun _ _ commute => commute.symm⟩
    have different : field ≠ other := fun same => apart (.inr (.inr (congrArg Field.name same.symm)))
    rw [commute.forall member memberToo different value valueToo state.2]

private theorem absorbField_cases (fields : List (Field (Except Fault) Draft σ)) (member : Member) :
    (∀ state, absorbField fields state member = none) ∨ (∀ state, absorbField fields state member = some state) ∨
      ∃ field ∈ fields, ∀ state, absorbField fields state member = readField field member.2 state := by
  obtain ⟨key, value⟩ := member
  cases key with
  | error fault => exact .inl fun _ => rfl
  | ok key =>
    cases found : fields.find? (·.name = key) with
    | none =>
      cases skipped : Draft.skip value with
      | error fault =>
        left
        intro state
        rw [absorbField_unknown found, skipped]
        rfl
      | ok _ =>
        right
        left
        intro state
        rw [absorbField_unknown found, skipped]
        rfl
    | some field =>
      refine .inr (.inr ⟨field, List.mem_of_find?_eq_some found, ?_⟩)
      exact absorbField_known found value

theorem absorbField_comm {fields : List (Field (Except Fault) Draft σ)} (commute : fields.Pairwise Commute)
    (state : Finset String × σ) (first second : Member) :
    (absorbField fields state first).bind (absorbField fields · second) =
      (absorbField fields state second).bind (absorbField fields · first) := by
  rcases absorbField_cases fields first with stops | idle | ⟨field, member, reads⟩
  · simp [stops]
  · simp [idle]
  · rcases absorbField_cases fields second with stops | idle | ⟨other, memberToo, readsToo⟩
    · simp [stops]
    · simp [idle]
    · simp only [reads, readsToo]
      exact readField_comm commute member memberToo first.2 second.2 state

end Json

end ApiStyle
