import ApiStyle.Document.Load
import ApiStyle.Proofs.DocumentParts
import ApiStyle.Proofs.JsonText
import Mathlib.Logic.Relation

/-! Edits that the reader of a JSON document overlooks. An object with fields may have its members in any order, and
members of its own; so may the paths, as extensions. All other maps keep the order of their keys. -/

namespace ApiStyle

namespace Json

open Source

/-- One edit of a tree, at the root or at a place below. -/
inductive Edit : Role → Draft → Draft → Prop where
  | reorder {kind : Kind} {members others : List Member} (permuted : members.Perm others) :
    Edit (.record kind) (.object members) (.object others)
  | unknown {kind : Kind} {key : String} {value : Draft} (before after : List Member)
    (absent : kind.fields.lookup key = none) (whole : value.firstFault = none) :
    Edit (.record kind) (.object (before ++ after)) (.object (before ++ (.ok key, value) :: after))
  | extension {key : String} {value : Draft} (before after : List Member) (marked : Paths.isExtension key = true)
    (whole : value.firstFault = none) :
    Edit .paths (.object (before ++ after)) (.object (before ++ (.ok key, value) :: after))
  | field {kind : Kind} {key : String} {role : Role} {value changed : Draft} (before after : List Member)
    (known : kind.fields.lookup key = some role) (edit : Edit role value changed) :
    Edit (.record kind) (.object (before ++ (.ok key, value) :: after))
      (.object (before ++ (.ok key, changed) :: after))
  | item {role : Role} {value changed : Draft} (before after : List Draft) (edit : Edit role value changed) :
    Edit (.list role) (.array (before ++ value :: after)) (.array (before ++ changed :: after))
  | entry {role : Role} {key : String} {value changed : Draft} (before after : List Member)
    (edit : Edit role value changed) :
    Edit (.map role) (.object (before ++ (.ok key, value) :: after)) (.object (before ++ (.ok key, changed) :: after))
  | path {key : String} {value changed : Draft} (before after : List Member) (kept : Paths.isExtension key = false)
    (edit : Edit (.record .pathItem) value changed) :
    Edit .paths (.object (before ++ (.ok key, value) :: after)) (.object (before ++ (.ok key, changed) :: after))

variable {α β σ : Type} {role : Role} {kind : Kind}

/-- A decoder returns the same from edited trees, or nothing from either. -/
def Overlooks (role : Role) (decode : Draft → Except Fault α) : Prop :=
  ∀ tree changed, Edit role tree changed → (decode tree).toOption = (decode changed).toOption

namespace Overlooks

theorem edits {decode : Draft → Except Fault α} (overlooks : Overlooks role decode) {tree changed : Draft}
    (edited : Relation.EqvGen (Edit role) tree changed) : (decode tree).toOption = (decode changed).toOption := by
  induction edited with
  | rel tree changed edit => exact overlooks tree changed edit
  | refl tree => rfl
  | symm tree changed _ ih => exact ih.symm
  | trans tree middle changed _ _ ih ihToo => exact ih.trans ihToo

theorem other (decode : Draft → Except Fault α) : Overlooks .other decode := by
  intro tree changed edit
  cases edit

theorem variant (decode : Draft → Except Fault α) : Overlooks .variant decode := by
  intro tree changed edit
  cases edit

theorem optional {decode : Draft → Except Fault α} (overlooks : Overlooks role decode) :
    Overlooks role (Source.optional decode) := by
  intro tree changed edit
  have same := overlooks tree changed edit
  cases edit <;> rw [toOption_optional rfl, toOption_optional rfl, same]

theorem sequence {decode : Draft → Except Fault α} (overlooks : Overlooks role decode) :
    Overlooks (.list role) (Source.sequence decode) := by
  intro tree changed edit
  cases edit with
  | item before after edit =>
    have same := overlooks _ _ edit
    simp only [toOption_sequence, List.mapM_append, List.mapM_cons, same]

theorem table {decode : Draft → Except Fault α} (overlooks : Overlooks role decode) :
    Overlooks (.map role) (Source.table decode) := by
  intro tree changed edit
  cases edit with
  | entry before after edit =>
    have same := overlooks _ _ edit
    rw [toOption_table, toOption_table]
    apply MemberFold.replace
    intro table
    rw [absorbEntry, absorbEntry, same]

theorem paths (overlooks : Overlooks (.record .pathItem) (PathItem.decode : Draft → Except Fault PathItem)) :
    Overlooks .paths (Paths.decode : Draft → Except Fault (List (String × PathItem))) := by
  intro tree changed edit
  cases edit with
  | extension before after marked whole =>
    rw [toOption_paths, toOption_paths, MemberFold.insert (absorbPath_extension marked whole)]
  | path before after kept edit =>
    have same := overlooks _ _ edit
    rw [toOption_paths, toOption_paths]
    apply MemberFold.replace
    intro paths
    rw [absorbPath_template kept, absorbPath_template kept, same]

theorem record {expected : String} {fields : List (Field (Except Fault) Draft σ)} {initial : σ}
    {finish : σ → Source.Given → Except Fault α} {settle : Finset String → σ → Option α}
    (assembles : Assembles Overlooks kind fields finish settle) :
    Overlooks (.record kind) fun node => readRecord expected fields initial node finish := by
  intro tree changed edit
  cases edit with
  | reorder permuted =>
    rw [toOption_record fields initial assembles.named, toOption_record fields initial assembles.named,
      MemberFold.perm (absorbField_comm assembles.commute) permuted]
  | unknown before after absent whole =>
    rw [toOption_record fields initial assembles.named, toOption_record fields initial assembles.named,
      MemberFold.insert]
    intro state
    rw [absorbField_unknown (Reads.unknown assembles.reads absent), skip_of_whole whole]
    rfl
  | field before after known edit =>
    obtain ⟨field, found, _, β, decode, put, overlooks, read⟩ := Reads.known assembles.reads known
    have same := overlooks _ _ edit
    rw [toOption_record fields initial assembles.named, toOption_record fields initial assembles.named]
    congr 1
    apply MemberFold.replace
    intro state
    rw [absorbField_known found, absorbField_known found, readField, readField, read]
    dsimp only
    rw [toOption_bind, toOption_bind, same]

/-- What one decoder overlooks, all do that are made of it. -/
theorem compositional : Compositional Overlooks where
  other := .other
  variant := .variant
  refusing := by
    intro α role decode refuses tree changed _
    rw [refuses, refuses]
  optional := .optional
  list := .sequence
  map := .table
  paths := .paths
  record := .record

end Overlooks

end Json

open Json Source

namespace Document

private theorem overlooks (depth : Nat) :
    Overlooks (.record .document) (Document.decode depth : Draft → Except Fault Document) :=
  Overlooks.compositional.document depth

theorem toOption_ofJson {text : String} {tree : Draft} (read : Draft.ofText text.toList = (tree, none)) :
    (ofJson text).toOption = (decode Json.nestingLimit tree : Except Fault Document).toOption := by
  rw [ofJson, toOption_mapError, decodeText, read]
  dsimp only
  cases (decode Json.nestingLimit tree : Except Fault Document) <;> rfl

/-- Of two texts whose trees differ by edits either both are read as the same document or none is read. How a text
is laid out does not show in its tree. -/
theorem ofJson_of_edits {text other : String} {tree changed : Draft}
    (read : Draft.ofText text.toList = (tree, none)) (readToo : Draft.ofText other.toList = (changed, none))
    (edited : Relation.EqvGen (Edit (.record .document)) tree changed) (document : Document) :
    ofJson text = .ok document ↔ ofJson other = .ok document := by
  have same := (overlooks Json.nestingLimit).edits edited
  rw [← toOption_eq_some, ← toOption_eq_some, toOption_ofJson read, toOption_ofJson readToo, same]

/-- A document with a title and an empty path, as it is written. -/
def titled : Json := .object [("info", .object [("title", .string "Pets")]), ("paths", .object [("/pets", .object [])])]

/-- The same with its members the other way round, with a logo, and with two extensions of one name. -/
def titledToo : Json := .object
  [("paths", .object [("x-note", .array []), ("/pets", .object []), ("x-note", .null)]),
    ("info", .object [("x-logo", .bool true), ("title", .string "Pets")])]

theorem titled_of_edits : Draft.ofText titled.compactText.toList = (titled.toDraft, none) ∧
    Draft.ofText titledToo.compactText.toList = (titledToo.toDraft, none) ∧
    Relation.EqvGen (Edit (.record .document)) titled.toDraft titledToo.toDraft ∧
    ofJson titled.compactText = .ok { info := some { title := some "Pets" }, paths := [("/pets", {})] } ∧
    ofJson titledToo.compactText = .ok { info := some { title := some "Pets" }, paths := [("/pets", {})] } := by
  have texts (tree : Json) : Draft.ofText tree.compactText.toList = (tree.toDraft, none) := by
    rw [compactText, String.toList_ofList, ofText_compact]
  have edited : Relation.EqvGen (Edit (.record .document)) titled.toDraft titledToo.toDraft := by
    apply Relation.EqvGen.trans
    · exact .rel _ _ (.reorder (List.Perm.swap _ _ []))
    apply Relation.EqvGen.trans
    · exact .rel _ _ (.field [] _ rfl (@Edit.extension "x-note" (.array []) [] _ (by decide) rfl))
    apply Relation.EqvGen.trans
    · exact .rel _ _ (.field [] _ rfl (@Edit.extension "x-note" .null [_, _] [] (by decide) rfl))
    · exact .rel _ _ (.field [_] [] rfl (@Edit.unknown .info "x-logo" (.bool true) [] _ rfl rfl))
  have loaded : ofJson titled.compactText =
      .ok { info := some { title := some "Pets" }, paths := [("/pets", {})] } := by
    rw [← toOption_eq_some, toOption_ofJson (texts titled)]
    rfl
  exact ⟨texts titled, texts titledToo, edited, loaded, (ofJson_of_edits (texts _) (texts _) edited _).mp loaded⟩

end Document

end ApiStyle
