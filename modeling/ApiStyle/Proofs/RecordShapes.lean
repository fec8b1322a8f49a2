import ApiStyle.Proofs.Edits
import ApiStyle.Proofs.PositionalReading

/-! The shapes of records in a JSON document. Wherever a document has an object with fields, the loader takes an object,
or an array with as many items as there are fields or less: it reads the items as the fields in order. It takes nothing
else there but null for what may be absent. -/

namespace ApiStyle

namespace Json

open Source

variable {α β γ σ : Type} {role : Role} {kind : Kind} {hole : Draft → Draft}

/-- A place in a tree where a record of a kind stands, as the tree around it. -/
inductive IsPlace : Role → Kind → (Draft → Draft) → Prop
  | here {kind : Kind} : IsPlace (.record kind) kind id
  | member {outer kind : Kind} {key : String} {role : Role} {hole : Draft → Draft} (before after : List Member)
    (known : outer.fields.lookup key = some role) (inside : IsPlace role kind hole) :
    IsPlace (.record outer) kind fun tree => .object (before ++ (.ok key, hole tree) :: after)
  | position {outer kind : Kind} {key : String} {role : Role} {hole : Draft → Draft} (before after : List Draft)
    (known : outer.fields[before.length]? = some (key, role)) (inside : IsPlace role kind hole) :
    IsPlace (.record outer) kind fun tree => .array (before ++ hole tree :: after)
  | item {role : Role} {kind : Kind} {hole : Draft → Draft} (before after : List Draft)
    (inside : IsPlace role kind hole) :
    IsPlace (.list role) kind fun tree => .array (before ++ hole tree :: after)
  | entry {role : Role} {kind : Kind} {hole : Draft → Draft} (key : String) (before after : List Member)
    (inside : IsPlace role kind hole) :
    IsPlace (.map role) kind fun tree => .object (before ++ (.ok key, hole tree) :: after)
  | path {key : String} {kind : Kind} {hole : Draft → Draft} (before after : List Member)
    (kept : Paths.isExtension key = false) (inside : IsPlace (.record .pathItem) kind hole) :
    IsPlace .paths kind fun tree => .object (before ++ (.ok key, hole tree) :: after)

/-- An object, or an array that does not have more items than a record of the kind has fields. -/
def Draft.IsRecord (kind : Kind) (tree : Draft) : Prop :=
  (∃ members, tree = .object members) ∨ ∃ items, tree = .array items ∧ items.length ≤ kind.fields.length

/-- Items under the names of the fields that they are read as. -/
def Kind.named (kind : Kind) (items : List Draft) : List Member := Json.named (kind.fields.map Prod.fst) items

/-- What is read where a record of a kind stands. -/
structure IsReader (kind : Kind) (read : Draft → Option β) : Prop where
  shape : ∀ tree value, read tree = some value → tree = .null ∨ tree.IsRecord kind
  named : ∀ items : List Draft, items.length ≤ kind.fields.length →
    read (.array items) = read (.object (kind.named items))

/-- What stands in a hole is read by itself: what is made of the whole depends on what was read of it alone. -/
def Isolates (hole : Draft → Draft) (inner : Draft → Option β) (outer : Draft → Option α) : Prop :=
  ∃ rest : β → Option α, ∀ tree, outer (hole tree) = (inner tree).bind rest

theorem Isolates.within {inner : Draft → Option β} {middle : Draft → Option γ} {outer : Draft → Option α}
    {around : Draft → Draft} (first : Isolates hole inner middle) (second : Isolates around middle outer) :
    Isolates (fun tree => around (hole tree)) inner outer := by
  obtain ⟨next, read⟩ := first
  obtain ⟨rest, readToo⟩ := second
  refine ⟨fun value => (next value).bind rest, fun tree => ?_⟩
  rw [readToo, read, Option.bind_assoc]

/-- Records at every place of a tree are read by themselves. -/
def ReadsRecords (role : Role) (decode : Draft → Except Fault α) : Prop :=
  ∀ kind hole, IsPlace role kind hole → ∃ (β : Type) (inner : Draft → Option β),
    IsReader kind inner ∧ Isolates hole inner fun tree => (decode tree).toOption

private theorem isolates_item (decode : Draft → Except Fault α) (before after : List Draft) :
    Isolates (fun tree => .array (before ++ tree :: after)) (fun tree => (decode tree).toOption)
      fun tree => (sequence decode tree).toOption := by
  refine ⟨fun value => (before.mapM fun item => (decode item).toOption).bind fun first =>
    (after.mapM fun item => (decode item).toOption).bind fun last => some (first ++ value :: last), fun tree => ?_⟩
  dsimp only
  rw [toOption_sequence, List.mapM_append]
  simp only [List.mapM_cons, Option.bind_eq_bind, Option.pure_def, Option.bind_assoc, Option.bind_some]
  exact Option.bind_comm _ _

private theorem isolates_entry (decode : Draft → Except Fault α) (key : String) (before after : List Member) :
    Isolates (fun tree => .object (before ++ (.ok key, tree) :: after)) (fun tree => (decode tree).toOption)
      fun tree => (table decode tree).toOption := by
  refine ⟨fun value => (before.foldlM (absorbEntry decode) []).bind fun table =>
    after.foldlM (absorbEntry decode) (Table.put key value table), fun tree => ?_⟩
  dsimp only
  rw [toOption_table, List.foldlM_append]
  simp only [List.foldlM_cons, absorbEntry, toOption_ok, Option.bind_eq_bind, Option.pure_def, Option.bind_assoc,
    Option.bind_some]
  exact Option.bind_comm _ _

private theorem isolates_path {key : String} (kept : Paths.isExtension key = false) (before after : List Member) :
    Isolates (fun tree => .object (before ++ (.ok key, tree) :: after))
      (fun tree => (PathItem.decode tree : Except Fault PathItem).toOption)
      fun tree => (Paths.decode tree : Except Fault (List (String × PathItem))).toOption := by
  refine ⟨fun item => (before.foldlM absorbPath []).bind fun paths =>
    (if key ∈ paths.map Prod.fst then none else some (paths ++ [(key, item)])).bind fun paths =>
      after.foldlM absorbPath paths, fun tree => ?_⟩
  dsimp only
  rw [toOption_paths, List.foldlM_append]
  simp only [List.foldlM_cons, absorbPath_template kept, Option.bind_eq_bind, Option.bind_assoc]
  exact Option.bind_comm _ _

section

variable {expected : String} {fields : List (Field (Except Fault) Draft σ)} {initial : σ}
  {finish : σ → Source.Given → Except Fault α} {settle : Finset String → σ → Option α}
  {holds : ∀ {α : Type}, Role → (Draft → Except Fault α) → Prop}

private theorem Reads.names_eq {entries : List (String × Role)} (reads : List.Forall₂ (Reads @holds) entries fields) :
    fields.map Field.name = entries.map Prod.fst := by
  induction reads with
  | nil => rfl
  | cons first _ ih => rw [List.map_cons, List.map_cons, first.name, ih]

namespace Assembles

variable (assembles : Assembles @holds kind fields finish settle)

include assembles

theorem toOption_named {items : List Draft} (short : items.length ≤ kind.fields.length) :
    (readRecord expected fields initial (.array items) finish).toOption =
      (readRecord expected fields initial (.object (kind.named items)) finish).toOption := by
  have names := Reads.names_eq assembles.reads
  have distinct : (fields.map Field.name).Nodup := names ▸ kind.nodup_fields
  rw [assembles.reads.length_eq] at short
  rw [Kind.named, ← names]
  exact Json.toOption_named distinct assembles.named assembles.positional short

theorem toOption_surplus {items : List Draft} (surplus : kind.fields.length < items.length) :
    (readRecord expected fields initial (.array items) finish).toOption = none :=
  Json.toOption_surplus (assembles.reads.length_eq ▸ surplus)

private theorem shape {tree : Draft} {value : α} (read : readRecord expected fields initial tree finish = .ok value) :
    tree.IsRecord kind := by
  obtain ⟨opened, resolved, rest⟩ := bind_eq_ok.mp read
  obtain rfl := Except.ok.inj resolved
  obtain ⟨_, found, _⟩ := bind_eq_ok.mp rest
  rcases Draft.container_of_record found with ⟨members, rfl⟩ | ⟨items, rfl⟩
  · exact .inl ⟨members, rfl⟩
  · refine .inr ⟨items, rfl, Nat.le_of_not_lt fun surplus => ?_⟩
    have refused : (readRecord expected fields initial (.array items) finish).toOption = none :=
      assembles.toOption_surplus surplus
    rw [read] at refused
    cases refused

private theorem isReader : IsReader kind fun tree => (readRecord expected fields initial tree finish).toOption where
  shape _ _ read := .inr (assembles.shape (toOption_eq_some.mp read))
  named _ short := assembles.toOption_named short

theorem isolates_member {key : String} (known : kind.fields.lookup key = some role) (before after : List Member) :
    ∃ (β : Type) (decode : Draft → Except Fault β), holds role decode ∧
      Isolates (fun tree => .object (before ++ (.ok key, tree) :: after)) (fun tree => (decode tree).toOption)
        fun tree => (readRecord expected fields initial tree finish).toOption := by
  obtain ⟨field, found, _, β, decode, put, part, read⟩ := Reads.known assembles.reads known
  refine ⟨β, decode, part, fun value => (before.foldlM (absorbField fields) (∅, initial)).bind fun state =>
    if field.name ∈ state.1 then none
    else (after.foldlM (absorbField fields) (insert field.name state.1, put value state.2)).bind fun state =>
      settle state.1 state.2, fun tree => ?_⟩
  dsimp only
  rw [toOption_record fields initial assembles.named, List.foldlM_append, Option.bind_eq_bind, Option.bind_assoc,
    Option.bind_comm]
  congr 1
  funext state
  rw [List.foldlM_cons, absorbField_known found, readField, read]
  split
  · exact (Option.bind_fun_none _).symm
  · dsimp only
    rw [toOption_bind]
    simp only [Option.bind_eq_bind, Option.map_bind, Option.bind_assoc]
    rfl

/-- So is an item in the place of a field, unless there are so many items that nothing is read. -/
theorem isolates_position {key : String} {before : List Draft} (known : kind.fields[before.length]? = some (key, role))
    (after : List Draft) : ∃ (β : Type) (decode : Draft → Except Fault β), holds role decode ∧
      Isolates (fun tree => .array (before ++ tree :: after)) (fun tree => (decode tree).toOption)
        fun tree => (readRecord expected fields initial tree finish).toOption := by
  have under : kind.fields.lookup key = some role :=
    (Table.lookup_eq_some_iff kind.nodup_fields).mpr (List.mem_of_getElem? known)
  have there : (kind.fields.map Prod.fst)[before.length]? = some key := by
    rw [List.getElem?_map, known]
    rfl
  obtain ⟨earlier, later, named⟩ := exists_named there after
  obtain ⟨β, decode, part, rest, same⟩ := assembles.isolates_member under earlier later
  refine ⟨β, decode, part, ?_⟩
  have length (tree : Draft) : (before ++ tree :: after).length = before.length + (after.length + 1) := by
    rw [List.length_append, List.length_cons]
  by_cases short : before.length + (after.length + 1) ≤ kind.fields.length
  · refine ⟨rest, fun tree => ?_⟩
    dsimp only
    rw [assembles.toOption_named (length tree ▸ short), Kind.named, named]
    exact same tree
  · refine ⟨fun _ => none, fun tree => ?_⟩
    dsimp only
    rw [assembles.toOption_surplus (length tree ▸ Nat.lt_of_not_le short)]
    exact (Option.bind_fun_none _).symm

end Assembles

end

private theorem IsReader.of_refusing {read : Draft → Option β} (refuses : ∀ tree, read tree = none) :
    IsReader kind read where
  shape tree value found := by
    rw [refuses] at found
    cases found
  named _ _ := by rw [refuses, refuses]

namespace ReadsRecords

theorem within {around : Draft → Draft} {decode : Draft → Except Fault β} {outer : Draft → Except Fault α}
    (part : ReadsRecords role decode) (isPlace : IsPlace role kind hole)
    (isolates : Isolates around (fun tree => (decode tree).toOption) fun tree => (outer tree).toOption) :
    ∃ (γ : Type) (inner : Draft → Option γ), IsReader kind inner ∧
      Isolates (fun tree => around (hole tree)) inner fun tree => (outer tree).toOption := by
  obtain ⟨γ, inner, reader, first⟩ := part kind hole isPlace
  exact ⟨γ, inner, reader, first.within isolates⟩

theorem refusing {decode : Draft → Except Fault α} (refuses : ∀ tree, (decode tree).toOption = none) :
    ReadsRecords role decode :=
  fun _ _ _ => ⟨Unit, fun _ => none, .of_refusing fun _ => rfl, fun _ => none, fun _ => refuses _⟩

theorem eq_null_or_decoded {decode : Draft → Except Fault α} {tree : Draft} {value : Option α}
    (read : (Source.optional decode tree).toOption = some value) :
    tree = .null ∨ ∃ value, (decode tree).toOption = some value := by
  cases tree with
  | null => exact .inl rfl
  | broken fault => cases read
  | _ =>
    rw [toOption_optional rfl] at read
    obtain ⟨value, found, _⟩ := Option.map_eq_some_iff.mp read
    exact .inr ⟨value, found⟩

/-- Null is read where a record may be absent. Around a place that lies deeper there is no null. -/
theorem optional {decode : Draft → Except Fault α} (part : ReadsRecords role decode) :
    ReadsRecords role (Source.optional decode) := by
  intro kind hole isPlace
  obtain ⟨β, inner, reader, rest, same⟩ := part kind hole isPlace
  cases isPlace with
  | here =>
    simp only [id] at same
    have optionally : IsReader kind fun tree => (Source.optional decode tree).toOption := by
      refine ⟨fun tree value read => ?_, fun items short => ?_⟩
      · rcases eq_null_or_decoded read with rfl | ⟨value, found⟩
        · exact .inl rfl
        · rw [same] at found
          obtain ⟨first, read, _⟩ := Option.bind_eq_some_iff.mp found
          exact reader.shape tree first read
      · rw [toOption_optional rfl, toOption_optional rfl, same, same, reader.named items short]
    exact ⟨Option α, _, optionally, some, fun _ => (Option.bind_fun_some _).symm⟩
  | _ =>
    dsimp only at same
    refine ⟨β, inner, reader, fun value => (rest value).map some, fun tree => ?_⟩
    dsimp only
    rw [toOption_optional rfl, same, Option.map_bind]
    rfl

theorem list {decode : Draft → Except Fault α} (part : ReadsRecords role decode) :
    ReadsRecords (.list role) (sequence decode) := by
  intro kind hole isPlace
  cases isPlace with
  | item before after inside => exact part.within inside (isolates_item decode before after)

theorem map {decode : Draft → Except Fault α} (part : ReadsRecords role decode) :
    ReadsRecords (.map role) (table decode) := by
  intro kind hole isPlace
  cases isPlace with
  | entry key before after inside => exact part.within inside (isolates_entry decode key before after)

theorem paths (part : ReadsRecords (.record .pathItem) (PathItem.decode : Draft → Except Fault PathItem)) :
    ReadsRecords .paths (Paths.decode : Draft → Except Fault (List (String × PathItem))) := by
  intro kind hole isPlace
  cases isPlace with
  | path before after kept inside => exact part.within inside (isolates_path kept before after)

theorem record {expected : String} {fields : List (Field (Except Fault) Draft σ)} {initial : σ}
    {finish : σ → Source.Given → Except Fault α} {settle : Finset String → σ → Option α}
    (assembles : Assembles ReadsRecords kind fields finish settle) :
    ReadsRecords (.record kind) fun node => readRecord expected fields initial node finish := by
  intro inner hole isPlace
  cases isPlace with
  | here => exact ⟨α, _, assembles.isReader, some, fun _ => (Option.bind_fun_some _).symm⟩
  | member before after known inside =>
    obtain ⟨_, _, part, isolates⟩ := assembles.isolates_member known before after
    exact part.within inside isolates
  | position before after known inside =>
    obtain ⟨_, _, part, isolates⟩ := assembles.isolates_position known after
    exact part.within inside isolates

theorem compositional : Compositional ReadsRecords where
  other _ _ _ isPlace := by cases isPlace
  variant _ _ _ isPlace := by cases isPlace
  refusing := .refusing
  optional := .optional
  list := .list
  map := .map
  paths := .paths
  record := .record

end ReadsRecords

end Json

open Json Source

namespace Document

/-- Whatever stands at the place of a record, the rest of the document is read alike. -/
theorem ofJson_isolates {hole : Draft → Draft} {kind : Kind} (isPlace : IsPlace (.record .document) kind hole) :
    ∃ (β : Type) (inner : Draft → Option β) (rest : β → Option Document), IsReader kind inner ∧
      ∀ (text : String) tree, Draft.ofText text.toList = (hole tree, none) →
        (ofJson text).toOption = (inner tree).bind rest := by
  obtain ⟨β, inner, reader, rest, same⟩ := ReadsRecords.compositional.document Json.nestingLimit _ hole isPlace
  exact ⟨β, inner, rest, reader, fun text tree read => (toOption_ofJson read).trans (same tree)⟩

private theorem exists_tree_of_ofJson {text : String} {document : Document} (loaded : ofJson text = .ok document) :
    ∃ tree, Draft.ofText text.toList = (tree, none) := by
  have decoded := toOption_eq_some.mpr loaded
  rw [ofJson, toOption_mapError, toOption_eq_some] at decoded
  obtain ⟨value, _, settled⟩ := bind_eq_ok.mp decoded
  refine ⟨(Draft.ofText text.toList).1, Prod.ext rfl ?_⟩
  split at settled
  · assumption
  · cases settled

private theorem ofJson_eq_error {text : String} (refused : (ofJson text).toOption = none) :
    ∃ fault, ofJson text = .error (.json text fault) := by
  cases same : ofJson text with
  | ok document =>
    rw [same] at refused
    cases refused
  | error fault =>
    obtain ⟨fault, _, rfl⟩ := mapError_eq_error.mp same
    exact ⟨fault, rfl⟩

private theorem shapes_of_ofJson {text : String} {document : Document} (loaded : ofJson text = .ok document) :
    ∃ tree, Draft.ofText text.toList = (tree, none) ∧ tree.IsRecord .document ∧
      ∀ kind hole place, IsPlace (.record .document) kind hole → tree = hole place →
        place = .null ∨ place.IsRecord kind := by
  obtain ⟨tree, read⟩ := exists_tree_of_ofJson loaded
  have inside : ∀ kind hole place, IsPlace (.record .document) kind hole → tree = hole place →
      place = .null ∨ place.IsRecord kind := by
    rintro kind hole place isPlace rfl
    obtain ⟨β, inner, rest, reader, same⟩ := ofJson_isolates isPlace
    have found := same text place read
    rw [loaded, toOption_ok] at found
    obtain ⟨value, given, _⟩ := Option.bind_eq_some_iff.mp found.symm
    exact reader.shape place value given
  refine ⟨tree, read, ?_, inside⟩
  rcases inside .document id tree .here rfl with rfl | shape
  · have refused := toOption_ofJson read
    rw [loaded] at refused
    cases refused
  · exact shape

/-- A JSON text is read as a document only if wherever a record stands there is null, an object or an array with at most
as many items as the record has fields; all else is refused. An array is read as the object that has its items under the
names of the fields. -/
theorem ofJson_shapes (text : String) :
    (∀ document, ofJson text = .ok document → ∃ tree, Draft.ofText text.toList = (tree, none) ∧
      tree.IsRecord .document ∧ ∀ kind hole place, IsPlace (.record .document) kind hole → tree = hole place →
        place = .null ∨ place.IsRecord kind) ∧
    (∀ kind hole place, IsPlace (.record .document) kind hole → (Draft.ofText text.toList).1 = hole place →
      place ≠ .null → ¬ place.IsRecord kind → ∃ fault, ofJson text = .error (.json text fault)) ∧
    ∀ kind hole items, IsPlace (.record .document) kind hole → items.length ≤ kind.fields.length →
      Draft.ofText text.toList = (hole (.array items), none) →
        ∀ other : String, Draft.ofText other.toList = (hole (.object (kind.named items)), none) →
          ∀ document, ofJson text = .ok document ↔ ofJson other = .ok document := by
  refine ⟨fun _ loaded => shapes_of_ofJson loaded, ?_, ?_⟩
  · intro kind hole place isPlace around present other
    apply ofJson_eq_error
    rw [Option.eq_none_iff_forall_ne_some]
    intro document found
    obtain ⟨tree, read, _, inside⟩ := shapes_of_ofJson (toOption_eq_some.mp found)
    rw [read] at around
    exact (inside kind hole place isPlace around).elim present other
  · intro kind hole items isPlace short read other readToo document
    obtain ⟨β, inner, rest, reader, same⟩ := ofJson_isolates isPlace
    rw [← toOption_eq_some, ← toOption_eq_some, same text _ read, same other _ readToo, reader.named items short]

/-- What stands around the information of a document that has nothing else. -/
def infoPlace (info : Draft) : Draft := .object [(.ok "info", info)]

theorem isPlace_info : IsPlace (.record .document) .info infoPlace := .member [] [] rfl .here

theorem ofText_infoPlace (info : Json) :
    Draft.ofText (Json.object [("info", info)]).compactText.toList = (infoPlace info.toDraft, none) := by
  rw [compactText, String.toList_ofList, ofText_compact]
  rfl

/-- The title and the version by position. -/
theorem ofJson_info_pair :
    Draft.ofText "\x7b\"info\":[\"Pets\",\"1\"]\x7d".toList =
      (infoPlace (.array [.string (.ok "Pets"), .string (.ok "1")]), none) ∧
    ofJson "\x7b\"info\":[\"Pets\",\"1\"]\x7d" =
      .ok { info := some { title := some "Pets", version := some "1" } } := by
  have pair : (Json.object [("info", .array [.string "Pets", .string "1"])]).compactText =
      "\x7b\"info\":[\"Pets\",\"1\"]\x7d" := by decide
  have read := ofText_infoPlace (.array [.string "Pets", .string "1"])
  have readToo := ofText_infoPlace (.object [("title", .string "Pets"), ("version", .string "1")])
  rw [pair] at read
  refine ⟨read, ((ofJson_shapes _).2.2 .info infoPlace _ isPlace_info (by decide) read _ readToo _).mpr ?_⟩
  rw [← toOption_eq_some, toOption_ofJson readToo]
  rfl

/-- Without any items an array is read as an object without members, though it is not an object. -/
theorem ofJson_info_array :
    ofJson "\x7b\"info\":[]\x7d" = .ok { info := some {} } ∧
    ¬ ∀ text document kind hole place, ofJson text = .ok document →
      Draft.ofText text.toList = (hole place, none) → IsPlace (.record .document) kind hole →
        place = .null ∨ ∃ members, place = .object members := by
  have empty : (Json.object [("info", .array [])]).compactText = "\x7b\"info\":[]\x7d" := by decide
  have read := ofText_infoPlace (.array [])
  rw [empty] at read
  have loaded : ofJson "\x7b\"info\":[]\x7d" = .ok { info := some {} } := by
    rw [← toOption_eq_some, toOption_ofJson read]
    rfl
  refine ⟨loaded, fun objects => ?_⟩
  rcases objects _ _ _ _ _ loaded read isPlace_info with same | ⟨members, same⟩ <;> cases same

end Document

end ApiStyle
