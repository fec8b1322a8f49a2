import ApiStyle.Proofs.DecodingLogic
import ApiStyle.Proofs.MemberReading
import ApiStyle.Proofs.RoundTrip

/-! What documents have in common that were read from JSON: everything that is needed for them to come back from
their own JSON form, but for the way in which doubles are written. -/

namespace ApiStyle

open Json

namespace Json

instance : Observed (Except Fault) Draft where
  Returns program value := program = .ok value
  of_pure returned := (Except.ok.inj returned).symm
  of_bind returned := bind_eq_ok.mp returned
  of_locating returned := returned
  of_within returned := mapError_eq_ok.mp returned
  not_refuse returned := by cases returned

namespace Draft

private theorem eq_null_of_sorted {tree : Json} (null : sorted tree = .null) : tree = .null := by
  cases tree with
  | null => rfl
  | _ => cases null

theorem json_ne_null {limit : Nat} {draft : Draft} {tree : Json} (read : json limit draft = .ok tree)
    (present : Source.absent (m := Except Fault) draft = .ok false) : tree ≠ .null := by
  rintro rfl
  obtain ⟨whole, found, null⟩ := map_eq_ok.mp read
  obtain rfl := eq_null_of_sorted null
  cases draft with
  | null => cases present
  | broken => cases present
  | bool value =>
    rw [Draft.tree] at found
    cases found
  | number numeral =>
    rw [Draft.tree] at found
    split at found
    all_goals cases found
  | string text =>
    rw [Draft.tree] at found
    obtain ⟨value, _, impossible⟩ := map_eq_ok.mp found
    cases impossible
  | array items =>
    cases limit with
    | zero => cases found
    | succ limit =>
      obtain ⟨trees, _, made⟩ := bind_eq_ok.mp found
      cases made
  | object members =>
    cases limit with
    | zero => cases found
    | succ limit =>
      obtain ⟨trees, _, made⟩ := bind_eq_ok.mp found
      cases made

end Draft

end Json

section

variable {m : Type → Type} {ν : Type} [Source m ν] [Observed m ν]

/-- The paths of a document as they are read from any format. -/
def ArePaths (paths : List (String × PathItem)) : Prop :=
  (paths.map Prod.fst).Nodup ∧ ∀ path ∈ paths, ¬ "x-".toList <+: path.1.toList

private theorem Paths.decodeFrom_arePaths (entries : List (Entry m ν)) (index : Nat)
    {paths : List (String × PathItem)} (kept : ArePaths paths) : Ensures (decodeFrom index entries paths) ArePaths := by
  induction entries generalizing index paths with
  | nil => exact Ensures.pure kept
  | cons entry entries ih =>
    refine Ensures.after fun key => ?_
    split
    · exact Ensures.after fun _ => ih (index + 1) kept
    next notExtension =>
      refine Ensures.after fun item => ?_
      split
      · exact Ensures.refuse
      next fresh =>
        refine ih (index + 1) ⟨?_, List.forall_mem_append.mpr ⟨kept.2, List.forall_mem_singleton.mpr ?_⟩⟩
        · rw [List.map_append]
          exact Table.nodup_append_singleton kept.1 fresh
        · exact fun extends_ => notExtension (List.isPrefixOf_iff_prefix.mpr extends_)

private theorem Paths.decode_arePaths (node : ν) : Ensures (decode (m := m) node) ArePaths := by
  have none : ArePaths [] := ⟨List.nodup_nil, List.forall_mem_nil _⟩
  exact Ensures.after fun _ => Ensures.locating (Ensures.after fun entries => decodeFrom_arePaths entries 0 none)

private theorem Server.decode_distinct (node : ν) :
    Ensures (Server.decode (m := m) node) fun server => (server.bindings.map Prod.fst).Nodup := by
  unfold Server.decode Source.readRecord
  refine Ensures.readRecordWith (fun server => (server.bindings.map Prod.fst).Nodup) List.nodup_nil ?_ ?_
  · simp only [List.forall_mem_cons]
    refine ⟨?_, ?_, ?_, List.forall_mem_nil _⟩
    · exact fun node server kept => Ensures.after fun _ => Ensures.pure kept
    · exact fun node server kept => Ensures.after fun _ => Ensures.pure kept
    · intro node server _
      refine (Ensures.table fun node => Ensures.trivially (ServerVariable.decode (m := m) node)).bind fun bindings read => ?_
      exact Ensures.pure read.distinct
  · exact fun server given kept => Ensures.after fun _ => Ensures.pure kept

end

namespace Schema

/-- A schema that is restored, and that takes at most so many containers. -/
def Fits (limit : Nat) (schema : Schema) : Prop := schema.IsRestorable Numeral.IsStored ∧ schema.toJson.depth ≤ limit

/-- What holds of a schema while its fields are read, one container within the limit. -/
structure PartsFit (limit : Nat) (schema : Schema) : Prop where
  sample : ∀ value, schema.sample = some value → value ≠ .null ∧ value.IsStored Numeral.IsStored ∧ value.depth ≤ limit
  properties : schema.properties = [] ∨ ∃ inner, limit = inner + 1 ∧ IsTable (Fits inner) schema.properties

private theorem PartsFit.fits {limit : Nat} {schema : Schema} (parts : schema.PartsFit limit) :
    schema.Fits (limit + 1) := by
  obtain ⟨reference, sample, properties⟩ := schema
  obtain ⟨examples, nested⟩ := parts
  have nested : properties = [] ∨ ∃ inner, limit = inner + 1 ∧ IsTable (Fits inner) properties := nested
  constructor
  · refine .mk (fun value same => ⟨(examples value same).1, (examples value same).2.1⟩) ?_ ?_
    · rcases nested with rfl | ⟨_, _, table⟩
      · exact List.nodup_nil
      · exact table.distinct
    · rcases nested with rfl | ⟨_, _, table⟩
      · exact List.forall_mem_nil _
      · exact fun property member => (table.values property.1 property.2 member).1
  · refine depth_toJson_le.mpr ⟨fun value same => (examples value same).2.2, nested.imp_right ?_⟩
    rintro ⟨inner, same, table⟩
    exact ⟨inner, same, fun property member => (table.values property.1 property.2 member).2⟩

private theorem optional_json (limit : Nat) (node : Draft) :
    Ensures (Source.optional (m := Except Json.Fault) (Source.json limit) node) fun sample => ∀ value, sample = some value →
      value ≠ .null ∧ value.IsStored Numeral.IsStored ∧ value.depth ≤ limit := by
  rintro _ returned value rfl
  obtain ⟨resolved, _, returned⟩ := bind_eq_ok.mp returned
  obtain ⟨missing, absent, returned⟩ := bind_eq_ok.mp returned
  cases missing with
  | true => cases returned
  | false =>
    obtain ⟨tree, read, made⟩ := bind_eq_ok.mp returned
    obtain rfl := Option.some.inj (Except.ok.inj made)
    exact ⟨Draft.json_ne_null read absent, Draft.stored_of_json read⟩

private theorem partsFit_none (limit : Nat) : PartsFit limit (.mk none none []) := by
  refine ⟨?_, Or.inl rfl⟩
  rintro _ ⟨⟩

private theorem decode_one (node : Draft) : Ensures (decode (m := Except Json.Fault) 1 node) (PartsFit 0) := by
  refine Ensures.readDefaulted (partsFit_none 0) ?_
  simp only [List.forall_mem_cons]
  refine ⟨?_, ?_, ?_, List.forall_mem_nil _⟩
  · exact fun node schema kept => Ensures.after fun _ => Ensures.pure ⟨kept.sample, kept.properties⟩
  · exact fun node schema kept => (optional_json 0 node).bind fun sample found =>
      Ensures.pure ⟨found, kept.properties⟩
  · intro node schema kept changed returned
    obtain ⟨properties, read, _⟩ := bind_eq_ok.mp returned
    exact absurd read (Draft.properties_at_limit node [] properties)

private theorem decode_fits (limit : Nat) (node : Draft) :
    Ensures (decode (m := Except Json.Fault) limit node) (Fits limit) := by
  induction limit using Nat.strong_induction_on generalizing node with
  | h limit ih =>
    rcases limit with _ | _ | inner
    · exact fun schema returned => absurd returned (Draft.schema_at_limit node schema)
    · exact (decode_one node).weaken fun schema => PartsFit.fits
    have parts : Ensures (decode (m := Except Json.Fault) (inner + 2) node) (PartsFit (inner + 1)) := by
      refine Ensures.readDefaulted (partsFit_none (inner + 1)) ?_
      simp only [List.forall_mem_cons]
      refine ⟨?_, ?_, ?_, List.forall_mem_nil _⟩
      · exact fun node schema kept => Ensures.after fun _ => Ensures.pure ⟨kept.sample, kept.properties⟩
      · exact fun node schema kept => (optional_json (inner + 1) node).bind fun sample found =>
          Ensures.pure ⟨found, kept.properties⟩
      · exact fun node schema kept => (Ensures.table (ih inner (by omega))).bind fun properties table =>
          Ensures.pure ⟨kept.sample, Or.inr ⟨inner, rfl, table⟩⟩
    exact parts.weaken fun schema => PartsFit.fits

end Schema

private theorem Components.decode_fits (limit : Nat) (node : Draft) :
    Ensures (Components.decode (m := Except Json.Fault) (limit + 2) node) fun components =>
      IsTable (Schema.Fits limit) components.schemas := by
  refine Ensures.readDefaulted IsTable.nil ?_
  simp only [List.forall_mem_cons]
  refine ⟨?_, List.forall_mem_nil _⟩
  exact fun node components _ => (Ensures.table (Schema.decode_fits limit)).bind fun schemas table => Ensures.pure table

namespace Document

/-- What holds of a document while its fields are read. -/
structure PartsRead (document : Document) : Prop where
  bindings : ∀ server ∈ document.servers, (server.bindings.map Prod.fst).Nodup
  paths : ArePaths document.paths
  schemas : IsTable (Schema.Fits (nestingLimit - 3)) document.schemas

private theorem decode_parts (node : Draft) :
    Ensures (decode (m := Except Json.Fault) nestingLimit node) PartsRead := by
  have none : PartsRead {} :=
    ⟨List.forall_mem_nil _, ⟨List.nodup_nil, List.forall_mem_nil _⟩, IsTable.nil⟩
  refine Ensures.readDefaulted none ?_
  simp only [List.forall_mem_cons]
  refine ⟨?_, ?_, ?_, ?_, ?_, List.forall_mem_nil _⟩
  · exact fun node document kept => Ensures.after fun _ => Ensures.pure ⟨kept.bindings, kept.paths, kept.schemas⟩
  · exact fun node document kept => Ensures.after fun _ => Ensures.pure ⟨kept.bindings, kept.paths, kept.schemas⟩
  · exact fun node document kept => (Ensures.sequence Server.decode_distinct).bind fun servers distinct =>
      Ensures.pure ⟨distinct, kept.paths, kept.schemas⟩
  · exact fun node document kept => (Paths.decode_arePaths node).bind fun paths read =>
      Ensures.pure ⟨kept.bindings, read, kept.schemas⟩
  · refine fun node document kept => (Ensures.optional (Components.decode_fits 124)).bind fun components read =>
      Ensures.pure ⟨kept.bindings, kept.paths, ?_⟩
    cases components with
    | none => exact IsTable.nil
    | some components => exact read components rfl

private theorem PartsRead.isRestorable {document : Document} (parts : document.PartsRead) :
    document.IsRestorable Numeral.IsStored where
  bindings := parts.bindings
  paths := parts.paths.1
  extensions := parts.paths.2
  schemas := parts.schemas.distinct
  restorable schema member := (parts.schemas.values schema.1 schema.2 member).1
  nesting := depth_toJson_le (by decide) fun schema member => (parts.schemas.values schema.1 schema.2 member).2

private theorem isRestorable_of_ofJson {text : String} {document : Document} (read : ofJson text = .ok document) :
    document.IsRestorable Numeral.IsStored := by
  obtain ⟨decoded, found, finished⟩ := bind_eq_ok.mp (mapError_eq_ok.mp read)
  have parts := decode_parts _ decoded found
  split at finished
  · obtain rfl := Except.ok.inj finished
    exact parts.isRestorable
  · cases finished

/-- Reading undoes writing, and whatever is read can be written and read again if its numbers are integers. -/
theorem ofJson_restores :
    (∀ document : Document, document.IsRestorable Numeral.IsWord → ofJson document.toJson.compactText = .ok document) ∧
      ∀ text document, ofJson text = .ok document → document.IsRestorable Numeral.IsStored :=
  ⟨fun _ => ofJson_compactText, fun _ _ => isRestorable_of_ofJson⟩

/-- A document with a path and with a property that has an example. -/
def pets : Document where
  paths := [("/pets", { get := some { tags := some [] } })]
  components := some ⟨[("Pet", .mk none none [("age", .mk none (some (.array [.number (.ofNat 3)])) [])])]⟩

theorem pets_restored : pets.IsRestorable Numeral.IsWord ∧ ofJson pets.toJson.compactText = .ok pets ∧
    pets.IsRestorable Numeral.IsStored := by
  have age : (Json.array [.number (.ofNat 3)]).IsStored Numeral.IsWord :=
    .array (List.forall_mem_singleton.mpr (.number ⟨3, by decide, by decide⟩))
  have property : Schema.IsRestorable Numeral.IsWord (.mk none (some (.array [.number (.ofNat 3)])) []) := by
    refine .mk ?_ List.nodup_nil (List.forall_mem_nil _)
    rintro _ ⟨⟩
    exact ⟨array_ne_null _, age⟩
  have restorable : pets.IsRestorable Numeral.IsWord := {
    bindings := List.forall_mem_nil _
    paths := by decide
    extensions := by decide
    schemas := by decide
    restorable := List.forall_mem_singleton.mpr
      (.mk (by rintro _ ⟨⟩) (by decide) (List.forall_mem_singleton.mpr property))
    nesting := by decide }
  have restored := ofJson_restores.1 pets restorable
  exact ⟨restorable, restored, ofJson_restores.2 _ pets restored⟩

end Document

end ApiStyle
