import ApiStyle.Proofs.Edits
import ApiStyle.Proofs.PositionalReading
import Mathlib.Data.List.Forall2
import Mathlib.Data.List.Nodup

/-! The members of the paths of a JSON document. Extensions are skipped; every other member has to be a path item under
a key of its own, and they are kept in the order of the text. -/

namespace ApiStyle

open Json Source

namespace Paths

/-- An object as it is written, repeated keys and all. Keys are texts: half a surrogate pair is none, so that an object
with such a key is malformed. -/
def ofMembers (members : List (String × Draft)) : Draft := .object (members.map fun member => (.ok member.1, member.2))

/-- The members that are no extensions. -/
def templates (members : List (String × Draft)) : List (String × Draft) :=
  members.filter fun member => !isExtension member.1

/-- A member is kept as a path: under its key, with the item that its value is. -/
def Keeps (member : String × Draft) (path : String × PathItem) : Prop :=
  path.1 = member.1 ∧ (PathItem.decode member.2 : Except Fault PathItem) = .ok path.2

variable {members : List (String × Draft)} {paths before : List (String × PathItem)}

private theorem keys_of_keeps (kept : List.Forall₂ Keeps members paths) :
    paths.map Prod.fst = members.map Prod.fst := by
  induction kept with
  | nil => rfl
  | cons first _ ih => rw [List.map_cons, List.map_cons, first.1, ih]

private theorem templates_extension {key : String} (marked : isExtension key = true) (value : Draft) :
    templates ((key, value) :: members) = templates members :=
  List.filter_cons_of_neg (by simp [marked])

private theorem templates_kept {key : String} (kept : isExtension key = false) (value : Draft) :
    templates ((key, value) :: members) = (key, value) :: templates members :=
  List.filter_cons_of_pos (by simp [kept])

private theorem exists_keeps_iff : (∃ paths, List.Forall₂ Keeps members paths) ↔
    ∀ member ∈ members, ∃ item, (PathItem.decode member.2 : Except Fault PathItem) = .ok item := by
  induction members with
  | nil => exact iff_of_true ⟨[], .nil⟩ (List.forall_mem_nil _)
  | cons member members ih =>
    rw [List.forall_mem_cons, ← ih]
    constructor
    · rintro ⟨_, kept⟩
      obtain ⟨path, paths, first, others, _⟩ := List.forall₂_cons_left_iff.mp kept
      exact ⟨⟨path.2, first.2⟩, paths, others⟩
    · rintro ⟨⟨item, loads⟩, paths, others⟩
      exact ⟨(member.1, item) :: paths, .cons ⟨rfl, loads⟩ others⟩

theorem absorbPath_eq_some {key : String} (kept : isExtension key = false) {value : Draft}
    {after : List (String × PathItem)} : absorbPath before (.ok key, value) = some after ↔
      ∃ item, (PathItem.decode value : Except Fault PathItem) = .ok item ∧ key ∉ before.map Prod.fst ∧
        before ++ [(key, item)] = after := by
  rw [absorbPath_template kept, Option.bind_eq_some_iff]
  simp only [toOption_eq_some, Option.ite_none_left_eq_some, Option.some_inj]

/-- From paths that are distinct, each template adds one that is new. -/
theorem absorb_iff (whole : ∀ member ∈ members, member.2.firstFault = none) (distinct : (before.map Prod.fst).Nodup) :
    (members.map fun member => (.ok member.1, member.2)).foldlM absorbPath before = some paths ↔
      ∃ added, List.Forall₂ Keeps (templates members) added ∧ paths = before ++ added ∧ (paths.map Prod.fst).Nodup := by
  induction members generalizing before with
  | nil =>
    constructor
    · intro same
      obtain rfl := Option.some.inj same
      exact ⟨[], .nil, (List.append_nil before).symm, distinct⟩
    · rintro ⟨added, kept, rfl, _⟩
      cases kept
      rw [List.append_nil]
      rfl
  | cons member members ih =>
    obtain ⟨key, value⟩ := member
    obtain ⟨here, later⟩ := List.forall_mem_cons.mp whole
    rw [List.map_cons, List.foldlM_cons]
    cases marked : isExtension key with
    | true =>
      rw [absorbPath_extension marked here, templates_extension marked]
      exact ih later distinct
    | false =>
      have extended {item : PathItem} (fresh : key ∉ before.map Prod.fst) :
          ((before ++ [(key, item)]).map Prod.fst).Nodup := by
        rw [List.map_append]
        exact Table.nodup_append_singleton distinct fresh
      rw [templates_kept marked, Option.bind_eq_bind, Option.bind_eq_some_iff]
      constructor
      · rintro ⟨_, step, rest⟩
        obtain ⟨item, loads, fresh, rfl⟩ := (absorbPath_eq_some marked).mp step
        obtain ⟨added, kept, rfl, unique⟩ := (ih later (extended fresh)).mp rest
        exact ⟨(key, item) :: added, .cons ⟨rfl, loads⟩ kept, List.append_assoc .., unique⟩
      · rintro ⟨_, all, rfl, unique⟩
        obtain ⟨⟨_, item⟩, added, ⟨rfl, loads⟩, kept, rfl⟩ := List.forall₂_cons_left_iff.mp all
        have fresh := Table.fresh_of_nodup unique
        refine ⟨_, (absorbPath_eq_some marked).mpr ⟨item, loads, fresh, rfl⟩, ?_⟩
        exact (ih later (extended fresh)).mpr ⟨added, kept, List.append_cons .., unique⟩

private theorem whole_iff : (ofMembers members).firstFault = none ↔ ∀ member ∈ members, member.2.firstFault = none := by
  rw [ofMembers, Draft.firstFault]
  induction members with
  | nil => simp [Draft.firstFaultOfMembers]
  | cons member members ih =>
    rw [List.map_cons, Draft.firstFaultOfMembers, Option.or_eq_none_iff, ih, List.forall_mem_cons]

private theorem decode_eq_ok_iff (whole : (ofMembers members).firstFault = none) :
    (decode (ofMembers members) : Except Fault _) = .ok paths ↔
      List.Forall₂ Keeps (templates members) paths ∧ ((templates members).map Prod.fst).Nodup := by
  rw [← toOption_eq_some, ofMembers, toOption_paths]
  refine (@absorb_iff members paths [] (whole_iff.mp whole) List.nodup_nil).trans ?_
  constructor
  · rintro ⟨_, kept, rfl, unique⟩
    exact ⟨kept, keys_of_keeps kept ▸ unique⟩
  · rintro ⟨kept, unique⟩
    exact ⟨paths, kept, rfl, keys_of_keeps kept ▸ unique⟩

end Paths

namespace Json

variable {σ : Type} {fields : List (Field (Except Fault) Draft σ)} {field : Field (Except Fault) Draft σ}

theorem exists_rest_member {expected key : String} {initial : σ} (commute : fields.Pairwise Commute)
    (found : fields.find? (·.name = key) = some field) (before after : List Member) : ∃ rest : Option σ, ∀ value,
      (readDefaulted expected fields initial (.object (before ++ (.ok key, value) :: after))).toOption =
        rest.bind fun record => (field.read value record).toOption := by
  refine ⟨((before ++ after).foldlM (absorbField fields) (∅, initial)).bind fun state =>
    if field.name ∈ state.1 then none else some state.2, fun value => ?_⟩
  have last : (before ++ (.ok key, value) :: after).Perm (before ++ after ++ [(.ok key, value)]) :=
    List.perm_middle.trans (List.perm_append_singleton _ _).symm
  rw [readDefaulted, toOption_record fields initial settles_defaulted, MemberFold.perm (absorbField_comm commute) last,
    List.foldlM_append, Option.bind_eq_bind, Option.bind_assoc, Option.bind_assoc]
  congr 1
  funext state
  rw [List.foldlM_cons, absorbField_known found, readField]
  split
  · rfl
  · rw [Option.bind_some]
    cases field.read value state.2 <;> rfl

/-- So may an item of an array. With more items than fields nothing is read, whatever they are. -/
theorem exists_rest_item {expected key : String} {initial : σ} (commute : fields.Pairwise Commute)
    (found : fields.find? (·.name = key) = some field) (distinct : (fields.map Field.name).Nodup) {before : List Draft}
    (there : (fields.map Field.name)[before.length]? = some key) (after : List Draft) : ∃ rest : Option σ, ∀ value,
      (readDefaulted expected fields initial (.array (before ++ value :: after))).toOption =
        rest.bind fun record => (field.read value record).toOption := by
  have length (value : Draft) : (before ++ value :: after).length = before.length + (after.length + 1) := by
    rw [List.length_append, List.length_cons]
  by_cases short : before.length + (after.length + 1) ≤ fields.length
  · obtain ⟨earlier, later, named⟩ := exists_named there after
    obtain ⟨rest, same⟩ := @exists_rest_member _ _ _ expected _ initial commute found earlier later
    refine ⟨rest, fun value => ?_⟩
    rw [readDefaulted, toOption_named distinct settles_defaulted (fun _ _ => rfl) (length value ▸ short), named]
    exact same value
  · refine ⟨none, fun value => ?_⟩
    exact toOption_surplus (length value ▸ Nat.lt_of_not_le short)

end Json

namespace Document

/-- Where the paths stand in a document: at their name, or in their place among the fields in order. -/
inductive IsPathsPlace : (Draft → Draft) → Prop where
  | member (before after : List Member) : IsPathsPlace fun paths => .object (before ++ (.ok "paths", paths) :: after)
  | item {before : List Draft} (three : before.length = 3) (after : List Draft) :
    IsPathsPlace fun paths => .array (before ++ paths :: after)

private theorem exists_paths_field (depth : Nat) :
    ∃ (fields : List (Field (Except Fault) Draft Document)) (field : Field (Except Fault) Draft Document),
      (decode depth : Draft → Except Fault Document) = readDefaulted "struct OpenApi" fields {} ∧
      fields.Pairwise Commute ∧ fields.find? (·.name = "paths") = some field ∧
      fields.map Field.name = ["openapi", "info", "servers", "paths", "components"] ∧
      ∀ value record, (field.read value record).toOption =
        (Paths.decode value : Except Fault _).toOption.map fun paths => { record with paths } := by
  refine ⟨_, _, rfl, ?_, rfl, rfl, fun value record => ?_⟩
  · simp [Commute.of_maps]
  · dsimp only
    cases (Paths.decode value : Except Fault _) <;> rfl

/-- Whatever stands at the place of the paths, the rest of the document is read alike. -/
theorem IsPathsPlace.exists_rest {place : Draft → Draft} (isPlace : IsPathsPlace place) (depth : Nat) :
    ∃ rest : Option Document, ∀ tree, (decode depth (place tree) : Except Fault Document).toOption =
      rest.bind fun document =>
        (Paths.decode tree : Except Fault _).toOption.map fun paths => { document with paths } := by
  obtain ⟨fields, field, same, commute, found, names, read⟩ := exists_paths_field depth
  simp only [same, ← read]
  cases isPlace with
  | member before after => exact exists_rest_member commute found before after
  | item three after =>
    refine exists_rest_item commute found ?_ ?_ after
    · rw [names]
      decide
    · rw [names, three]
      rfl

private theorem IsPathsPlace.toOption_decode {place : Draft → Draft} (isPlace : IsPathsPlace place) {depth : Nat}
    {document : Document} (loads : (decode depth (place (.object [])) : Except Fault Document) = .ok document)
    (tree : Draft) : (decode depth (place tree) : Except Fault Document).toOption =
      (Paths.decode tree : Except Fault _).toOption.map fun paths => { document with paths } := by
  obtain ⟨rest, same⟩ := isPlace.exists_rest depth
  have empty : (Paths.decode (.object [] : Draft) : Except Fault _).toOption = some [] := rfl
  have found := same (.object [])
  rw [loads, toOption_ok, empty] at found
  obtain ⟨record, rfl, told⟩ := Option.bind_eq_some_iff.mp found.symm
  obtain rfl := Option.some.inj told
  exact same tree

/-- A document loads if its templates are distinct and have path items, and its paths are those in order. What the
extensions are does not matter. -/
theorem ofJson_paths {text : String} {place : Draft → Draft} {members : List (String × Draft)} {document : Document}
    (isPlace : IsPathsPlace place) (read : Draft.ofText text.toList = (place (Paths.ofMembers members), none))
    (whole : (Paths.ofMembers members).firstFault = none)
    (loads : (decode Json.nestingLimit (place (.object [])) : Except Fault Document) = .ok document) :
    ((∃ loaded, ofJson text = .ok loaded) ↔
      (∀ member ∈ Paths.templates members, ∃ item, (PathItem.decode member.2 : Except Fault PathItem) = .ok item) ∧
        ((Paths.templates members).map Prod.fst).Nodup) ∧
    (∀ loaded, ofJson text = .ok loaded → ∃ paths,
      loaded = { document with paths } ∧ List.Forall₂ Paths.Keeps (Paths.templates members) paths) ∧
    (¬ ((Paths.templates members).map Prod.fst).Nodup → ∃ fault, ofJson text = .error (.json text fault)) ∧
    ∀ others, (Paths.ofMembers others).firstFault = none → Paths.templates others = Paths.templates members →
      (decode Json.nestingLimit (place (Paths.ofMembers others)) : Except Fault Document).toOption =
        (ofJson text).toOption := by
  have result (loaded : Document) : ofJson text = .ok loaded ↔ ∃ paths,
      (List.Forall₂ Paths.Keeps (Paths.templates members) paths ∧ ((Paths.templates members).map Prod.fst).Nodup) ∧
        { document with paths } = loaded := by
    rw [← toOption_eq_some, toOption_ofJson read, isPlace.toOption_decode loads, Option.map_eq_some_iff]
    simp only [toOption_eq_some, Paths.decode_eq_ok_iff whole]
  refine ⟨?_, ?_, ?_, ?_⟩
  · rw [← Paths.exists_keeps_iff]
    constructor
    · rintro ⟨loaded, same⟩
      obtain ⟨paths, ⟨kept, unique⟩, _⟩ := (result loaded).mp same
      exact ⟨⟨paths, kept⟩, unique⟩
    · rintro ⟨⟨paths, kept⟩, unique⟩
      exact ⟨_, (result _).mpr ⟨paths, ⟨kept, unique⟩, rfl⟩⟩
  · intro loaded same
    obtain ⟨paths, ⟨kept, _⟩, rfl⟩ := (result loaded).mp same
    exact ⟨paths, rfl, kept⟩
  · intro repeated
    cases same : ofJson text with
    | ok loaded =>
      obtain ⟨_, ⟨_, unique⟩, _⟩ := (result loaded).mp same
      exact absurd unique repeated
    | error fault =>
      obtain ⟨fault, _, rfl⟩ := mapError_eq_error.mp same
      exact ⟨fault, rfl⟩
  · intro others wholeToo same
    have alike : (Paths.decode (Paths.ofMembers others) : Except Fault _).toOption =
        (Paths.decode (Paths.ofMembers members) : Except Fault _).toOption := by
      apply Option.ext
      intro paths
      rw [toOption_eq_some, toOption_eq_some, Paths.decode_eq_ok_iff wholeToo, Paths.decode_eq_ok_iff whole, same]
    rw [toOption_ofJson read, isPlace.toOption_decode loads, isPlace.toOption_decode loads, alike]

/-- A document with these paths and nothing else, and its place for them. -/
def listing (members : List (String × Json)) : Json := .object [("info", .object []), ("paths", .object members)]

def listingPlace (paths : Draft) : Draft := .object [(.ok "info", .object []), (.ok "paths", paths)]

/-- Paths with two extensions of one name between them. -/
def noted : List (String × Json) :=
  [("x-note", .null), ("/pets", .object []), ("x-note", .array [.object []]), ("/pets/all", .object [])]

def notedDrafts : List (String × Draft) := noted.map fun member => (member.1, member.2.toDraft)

theorem noted_paths : IsPathsPlace listingPlace ∧
    Draft.ofText (listing noted).compactText.toList = (listingPlace (Paths.ofMembers notedDrafts), none) ∧
    (Paths.ofMembers notedDrafts).firstFault = none ∧
    (decode Json.nestingLimit (listingPlace (.object [])) : Except Fault Document) = .ok { info := some {} } ∧
    ∃ loaded, ofJson (listing noted).compactText = .ok loaded := by
  have isPlace : IsPathsPlace listingPlace := .member [_] []
  have read : Draft.ofText (listing noted).compactText.toList =
      (listingPlace (Paths.ofMembers notedDrafts), none) := by
    rw [compactText, String.toList_ofList, ofText_compact]
    rfl
  have whole : (Paths.ofMembers notedDrafts).firstFault = none := rfl
  have loads : (decode Json.nestingLimit (listingPlace (.object [])) : Except Fault Document) =
      .ok { info := some {} } := rfl
  refine ⟨isPlace, read, whole, loads, (ofJson_paths isPlace read whole loads).1.mpr ⟨?_, by decide⟩⟩
  have templates : Paths.templates notedDrafts = [("/pets", .object []), ("/pets/all", .object [])] := rfl
  have empty : (PathItem.decode (.object [] : Draft) : Except Fault PathItem) = .ok {} := rfl
  simp only [templates, List.forall_mem_cons, empty]
  exact ⟨⟨_, rfl⟩, ⟨_, rfl⟩, List.forall_mem_nil _⟩

end Document

end ApiStyle
