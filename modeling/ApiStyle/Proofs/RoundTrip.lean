import ApiStyle.Document.Load
import ApiStyle.Proofs.JsonText
import ApiStyle.Proofs.Nesting
import ApiStyle.Proofs.TreeDecoding

/-! Documents come back from their JSON form. -/

namespace ApiStyle

open Json

private theorem License.decodes (license : License) : Decodes License.decode license.toJson license :=
  .defaulted (by decide) (.optionalText rfl (.optionalText rfl .nil))

private theorem Contact.decodes (contact : Contact) : Decodes Contact.decode contact.toJson contact :=
  .defaulted (by decide) (.optionalText rfl (.optionalText rfl (.optionalText rfl .nil)))

private theorem Info.decodes (info : Info) : Decodes Info.decode info.toJson info := by
  have license : ∀ given, info.license = some given →
      given.toJson ≠ .null ∧ Decodes License.decode given.toJson given := fun given _ => ⟨object_ne_null _, given.decodes⟩
  have contact : ∀ given, info.contact = some given →
      given.toJson ≠ .null ∧ Decodes Contact.decode given.toJson given := fun given _ => ⟨object_ne_null _, given.decodes⟩
  refine .defaulted (by decide) (.optionalText rfl (.optionalText rfl (.optionalText rfl ?_)))
  exact .optional license rfl (.optional contact rfl .nil)

private theorem ServerVariable.decodes (declared : ServerVariable) :
    Decodes ServerVariable.decode declared.toJson declared := by
  refine .defaulted (by decide) (.required (.text declared.default) ?_)
  exact .unlessEmpty (fun _ => .strings declared.choices) rfl (.optionalText rfl .nil)

private theorem Server.decodes {server : Server} (distinct : (server.bindings.map Prod.fst).Nodup) :
    Decodes Server.decode server.toJson server := by
  have bindings := Decodes.table distinct fun binding _ => binding.2.decodes
  unfold Server.decode Source.readRecord
  refine .record _ (by decide) (.required (.text server.url) (.optionalText rfl (.required bindings .nil))) ?_
  obtain ⟨_, description, _⟩ := server
  cases description <;> rfl

private theorem ParameterLocation.decodes (location : ParameterLocation) :
    Decodes ParameterLocation.decode (.string location.name) location := by
  cases location <;> rfl

private theorem Parameter.decodes (parameter : Parameter) : Decodes Parameter.decode parameter.toJson parameter := by
  refine .defaulted (by decide) (.optionalText rfl ?_)
  exact .optional (fun location _ => ⟨string_ne_null _, location.decodes⟩) rfl (.optionalText rfl .nil)

private theorem Operation.decodes (operation : Operation) : Decodes Operation.decode operation.toJson operation := by
  have parameters : Decodes (Source.sequence Parameter.decode) (.array (operation.parameters.map Parameter.toJson))
      operation.parameters := .sequence fun parameter _ => parameter.decodes
  refine .defaulted (by decide) (.optionalText rfl (.optionalText rfl (.optionalText rfl ?_)))
  exact .optional (fun tags _ => ⟨array_ne_null _, .strings tags⟩) rfl (.unlessEmpty (fun _ => parameters) rfl .nil)

private theorem PathItem.decodes (item : PathItem) : Decodes PathItem.decode item.toJson item := by
  have operation (method : Option Operation) : ∀ given, method = some given →
      given.toJson ≠ .null ∧ Decodes Operation.decode given.toJson given :=
    fun given _ => ⟨object_ne_null _, given.decodes⟩
  refine .defaulted (by decide) ?_
  refine .optional (operation item.get) rfl (.optional (operation item.put) rfl (.optional (operation item.post) rfl ?_))
  refine .optional (operation item.delete) rfl (.optional (operation item.options) rfl ?_)
  refine .optional (operation item.head) rfl (.optional (operation item.patch) rfl ?_)
  exact .optional (operation item.trace) rfl .nil

private theorem Paths.decodes {paths : List (String × PathItem)} (distinct : (paths.map Prod.fst).Nodup)
    (kept : ∀ path ∈ paths, isExtension path.1 = false) :
    Decodes Paths.decode (.object (paths.map fun (path, item) => (path, item.toJson))) paths := by
  have members (index : Nat) (before : List (String × PathItem)) (distinct : ((before ++ paths).map Prod.fst).Nodup) :
      decodeFrom index (Draft.entriesFrom index (toDraftMembers (paths.map fun (path, item) => (path, item.toJson))))
        before = (.ok (before ++ paths) : Except Fault _) := by
    induction paths generalizing index before with
    | nil => exact congrArg Except.ok (List.append_nil before).symm
    | cons path paths ih =>
      obtain ⟨key, item⟩ := path
      obtain ⟨notExtension, kept⟩ := List.forall_mem_cons.mp kept
      have fresh := Table.fresh_of_nodup distinct
      rw [List.append_cons] at distinct
      have distinctRest : (paths.map Prod.fst).Nodup := by
        rw [List.map_append] at distinct
        exact (List.nodup_append.mp distinct).2.1
      refine bind_eq_ok.mpr ⟨key, rfl, ?_⟩
      rw [notExtension]
      refine bind_eq_ok.mpr ⟨item, mapError_eq_ok.mpr item.decodes, ?_⟩
      rw [if_neg fresh, ih distinctRest kept (index + 1) (before ++ [(key, item)]) distinct, ← List.append_cons]
  exact members 0 [] distinct

/-- What a schema keeps on its way through text: no example is null, all of them are stored trees, and properties
have different names. -/
inductive Schema.IsRestorable (number : Numeral → Prop) : Schema → Prop
  | mk {reference sample properties} :
      (∀ value, sample = some value → value ≠ .null ∧ value.IsStored number) →
      (properties.map Prod.fst).Nodup → (∀ property ∈ properties, IsRestorable number property.2) →
      IsRestorable number (.mk reference sample properties)

private theorem Schema.decodes {schema : Schema} (restorable : schema.IsRestorable Numeral.IsWord) {limit : Nat}
    (shallow : schema.toJson.depth ≤ limit) : Decodes (Schema.decode limit) schema.toJson schema := by
  induction limit using Nat.strong_induction_on generalizing schema with
  | h limit ih =>
    cases restorable with
    | mk examples distinct nested =>
      obtain ⟨limit, rfl⟩ : ∃ less, limit = less + 1 := ⟨limit - 1, by rw [toJson, Json.record, depth] at shallow; omega⟩
      obtain ⟨shallow, deeper⟩ := depth_toJson_le.mp shallow
      rw [toJson, toJsonEntries_eq_map]
      have examples : ∀ value, _ = some value → value ≠ .null ∧ Decodes (Source.json limit) value value :=
        fun value same => ⟨(examples value same).1, Draft.json_toDraft (examples value same).2 (shallow value same)⟩
      cases limit with
      | zero =>
        refine .defaulted (by simp) (.optionalText rfl (.optionalTree examples rfl (.unlessEmpty ?_ rfl .nil)))
        intro present
        rcases deeper with empty | ⟨_, impossible, _⟩
        · exact absurd empty present
        · cases impossible
      | succ inner =>
        refine .defaulted (by simp) (.optionalText rfl (.optionalTree examples rfl (.unlessEmpty ?_ rfl .nil)))
        intro present
        obtain ⟨_, same, deeper⟩ := deeper.resolve_left present
        obtain rfl := Nat.succ.inj same
        exact .table distinct fun property member => ih _ (by omega) (nested property member) (deeper property member)

private theorem Components.decodes {components : Components} {limit : Nat}
    (distinct : (components.schemas.map Prod.fst).Nodup)
    (restorable : ∀ schema ∈ components.schemas, schema.2.IsRestorable Numeral.IsWord)
    (shallow : components.toJson.depth ≤ limit + 2) :
    Decodes (Components.decode (limit + 2)) components.toJson components := by
  have shallow := depth_toJson_le.mp shallow
  have schemas : Decodes (Source.table (Schema.decode limit)) (.object (Schema.toJsonEntries components.schemas))
      components.schemas := by
    rw [Schema.toJsonEntries_eq_map]
    exact .table distinct fun schema member => Schema.decodes (restorable schema member) (shallow schema member)
  change Decodes _ (Json.record [("schemas", some (.object (Schema.toJsonEntries components.schemas)))]) _
  exact .defaulted (by simp) (.required schemas .nil)

/-- What a document keeps on its way through text: names are different where they are keys of a map, no path is an
extension, and no more containers nest than can be read. -/
structure Document.IsRestorable (number : Numeral → Prop) (document : Document) : Prop where
  bindings : ∀ server ∈ document.servers, (server.bindings.map Prod.fst).Nodup
  paths : (document.paths.map Prod.fst).Nodup
  extensions : ∀ path ∈ document.paths, ¬ "x-".toList <+: path.1.toList
  schemas : (document.schemas.map Prod.fst).Nodup
  restorable : ∀ schema ∈ document.schemas, schema.2.IsRestorable number
  nesting : document.toJson.depth ≤ nestingLimit

private theorem Document.decodes {document : Document} (restorable : document.IsRestorable Numeral.IsWord) :
    Decodes (Document.decode nestingLimit) document.toJson document := by
  obtain ⟨bindings, distinct, extensions, distinctSchemas, schemas, nesting⟩ := restorable
  obtain ⟨openapi, info, servers, paths, components⟩ := document
  have servers : Decodes (Source.sequence Server.decode) (.array (servers.map Server.toJson)) servers :=
    .sequence fun server member => Server.decodes (bindings server member)
  have kept : ∀ path ∈ paths, Paths.isExtension path.1 = false := by
    intro path member
    rw [Paths.isExtension, Bool.eq_false_iff, Ne, List.isPrefixOf_iff_prefix]
    exact extensions path member
  have paths := Paths.decodes distinct kept
  have components : ∀ given, components = some given →
      given.toJson ≠ .null ∧ Decodes (Components.decode (nestingLimit - 1)) given.toJson given := by
    rintro given rfl
    have shallow : given.toJson.depth ≤ 124 + 2 :=
      depth_record_le.mp nesting ("components", some given.toJson) (by simp) _ rfl
    exact ⟨object_ne_null _, Components.decodes distinctSchemas schemas shallow⟩
  have info : ∀ given, info = some given → given.toJson ≠ .null ∧ Decodes Info.decode given.toJson given :=
    fun given _ => ⟨object_ne_null _, given.decodes⟩
  refine .defaulted (by simp) (.optionalText rfl (.optional info rfl (.required servers (.required paths ?_))))
  exact .optional components rfl .nil

/-- A document comes back from its compact JSON text as it was. -/
theorem Document.ofJson_compactText {document : Document} (restorable : document.IsRestorable Numeral.IsWord) :
    Document.ofJson document.toJson.compactText = .ok document := by
  refine mapError_eq_ok.mpr ?_
  rw [decodeText, compactText, String.toList_ofList, ofText_compact]
  exact bind_eq_ok.mpr ⟨document, Document.decodes restorable, rfl⟩

end ApiStyle
