import ApiStyle.Proofs.Cutting
import ApiStyle.Proofs.ResultOrder
import ApiStyle.Proofs.RoundTrip
import ApiStyle.Proofs.Templates

/-! What violations say. Every character of it is of the wording of the rules, which is plain text on one line, or comes
from a text of the document: the url of a server, the default of a variable, a path, an id or a name. So whatever kind
of characters the wording keeps to, violations leave it only where the document does. -/

namespace ApiStyle

variable {kind : Char → Prop}

namespace Text

/-- All characters of a text are of a kind. -/
def Within (kind : Char → Prop) (text : String) : Prop := ∀ character ∈ text.toList, kind character

theorem within_append {first second : String} :
    Within kind (first ++ second) ↔ Within kind first ∧ Within kind second := by
  simp only [Within, String.toList_append, List.forall_mem_append]

theorem within_ofList {characters : List Char} :
    Within kind (String.ofList characters) ↔ ∀ character ∈ characters, kind character := by
  rw [Within, String.toList_ofList]

theorem within_intercalate {separator : String} (between : Within kind separator) {texts : List String} :
    Within kind (separator.intercalate texts) ↔ ∀ text ∈ texts, Within kind text := by
  induction texts with
  | nil => simp [Within]
  | cons first others ih =>
    by_cases last : others = []
    · simp [last]
    · simp only [String.intercalate_cons_of_ne_nil last, within_append, between, ih, List.forall_mem_cons, and_true]

end Text

open Text (Within)

/-- What the wording of rules is made of. -/
def InWording (character : Char) : Prop := ' '.toNat ≤ character.toNat ∧ character.toNat ≤ '~'.toNat

instance : DecidablePred InWording := fun _ => inferInstanceAs (Decidable (_ ∧ _))

/-- Texts of the wording alone. -/
def isWording (text : String) : Bool := text.toList.all fun character => decide (InWording character)

/-- The wording of rules keeps to a kind of characters. -/
def CoversWording (kind : Char → Prop) : Prop := ∀ character, InWording character → kind character

namespace CoversWording

variable (wording : CoversWording kind)

include wording

theorem text {text : String} (plain : isWording text) : Within kind text :=
  fun character member => wording character (of_decide_eq_true (List.all_eq_true.mp plain character member))

theorem texts {texts : List String} (plain : texts.all isWording) : ∀ text ∈ texts, Within kind text :=
  fun text member => wording.text (List.all_eq_true.mp plain text member)

theorem number (value : Nat) : Within kind (toString value) := by
  intro character member
  apply wording
  rw [Nat.toString_eq_ofList_toDigits, String.toList_ofList] at member
  have digit := Nat.isDigit_of_mem_toDigits (by decide) (by decide) member
  simp only [Char.isDigit, Bool.and_eq_true, decide_eq_true_eq] at digit
  exact ⟨le_trans (by decide) digit.1, le_trans digit.2 (by decide)⟩

theorem part (part : Section) : Within kind part.name := by
  cases part <;> exact wording.text (by decide)

private theorem method (method : Method) : Within kind method.name := by
  cases method <;> exact wording.text (by decide)

private theorem issue (identifier : Identifier) (issue : Issue) : Within kind (issue.message identifier) := by
  have name : Within kind identifier.name := by cases identifier <;> exact wording.text (by decide)
  cases issue with
  | convention expected =>
    have designation : Within kind expected.designation := by cases expected <;> exact wording.text (by decide)
    simp (disch := decide) only [Issue.message, Text.within_append, wording.text, name, designation, and_self]
  | notUnique => simp (disch := decide) only [Issue.message, Text.within_append, wording.text, name, and_self]

theorem place {path : String} (given : Within kind path) (method : Option Method) :
    Within kind (Place.operation path method).text := by
  cases method with
  | none => exact Text.within_append.mpr ⟨wording.text (by decide), given⟩
  | some method =>
    simp (disch := decide) only [Place.text, Text.within_append, wording.text, wording.method, given, and_self]

theorem suffix (place : Option String) :
    Within kind ((place.map fun place => " (" ++ place ++ ")").getD "") ↔ ∀ given ∈ place, Within kind given := by
  cases place with
  | none => simp [Within]
  | some place => simp (disch := decide) [Text.within_append, wording.text]

end CoversWording

namespace Violation

/-- The texts that every report puts together in its own way. -/
def texts (violation : Violation) : List String := violation.field :: violation.message :: violation.place.toList

variable {violation : Violation}

theorem within_unplaced (none : violation.place = none) (field : Within kind violation.field)
    (message : Within kind violation.message) : ∀ text ∈ violation.texts, Within kind text := by
  rw [texts, none]
  simpa using And.intro field message

theorem within_placed {place : String} (here : violation.place = some place) (field : Within kind violation.field)
    (message : Within kind violation.message) (given : Within kind place) :
    ∀ text ∈ violation.texts, Within kind text := by
  rw [texts, here]
  simpa using And.intro field (And.intro message given)

theorem within_line (wording : CoversWording kind) (violation : Violation) :
    Within kind violation.line ↔ ∀ text ∈ violation.texts, Within kind text := by
  simp (disch := decide) only [line, texts, Text.within_append, wording.text, wording.part, wording.suffix,
    List.forall_mem_cons, Option.mem_toList, Option.mem_def, true_and, and_true, and_assoc]

end Violation

namespace CoversWording

variable (wording : CoversWording kind) {path name url : String}

include wording

private theorem undeclared (around : Within kind url) (inside : Within kind name) :
    ∀ text ∈ (Violation.undeclaredVariable url name).texts, Within kind text := by
  have field : Within kind "server" := wording.text (by decide)
  have message : Within kind (Violation.undeclaredVariable url name).message := by
    simp (disch := decide) only [Violation.undeclaredVariable, Violation.message, Text.within_append, wording.text,
      around, inside, and_self]
  exact Violation.within_unplaced rfl field message

private theorem invalidUrl (resolved : Within kind url) :
    ∀ text ∈ (Violation.invalidServerUrl url).texts, Within kind text := by
  have field : Within kind "server" := wording.text (by decide)
  have prelude : Within kind "Invalid server url format: " := wording.text (by decide)
  exact Violation.within_unplaced rfl field (Text.within_append.mpr ⟨prelude, resolved⟩)

private theorem lack (given : Within kind path) (method : Method) (operation : Operation) (detail : Detail) :
    ∀ text ∈ (Endpoint.lack ⟨path, method, operation⟩ detail).texts, Within kind text := by
  have place := wording.place given (some method)
  have field : Within kind detail.name := by cases detail <;> exact wording.text (by decide)
  have missingField : Within kind Violation.missingFieldText := wording.text (by decide)
  have missingItems : Within kind Violation.missingItemsText := wording.text (by decide)
  cases detail with
  | tags => exact Violation.within_placed rfl field missingItems place
  | operationId | description | summary => exact Violation.within_placed rfl field missingField place

private theorem missingModel {schema property : String} (outer : Within kind schema) (inner : Within kind property) :
    ∀ text ∈ (Violation.missingModelAttribute schema property "example").texts, Within kind text := by
  have field : Within kind "example" := wording.text (by decide)
  have message : Within kind Violation.missingFieldText := wording.text (by decide)
  refine Violation.within_placed rfl field message ?_
  simp (disch := decide) only [Text.within_append, wording.text, outer, inner, and_self]

theorem named (subject : Within kind name) (identifier : Identifier) (issue : Issue) {place : Place}
    (here : Within kind place.text) : ∀ text ∈ (Violation.naming name identifier issue place).texts, Within kind text :=
  Violation.within_placed rfl subject (wording.issue identifier issue) here

end CoversWording

/-- The texts of a document that violations can repeat. -/
inductive Document.Tells (document : Document) : String → Prop
  | url {server} : server ∈ document.servers → Tells document server.url
  | default {server name declared} : server ∈ document.servers → (name, declared) ∈ server.bindings →
      Tells document declared.default
  | path {path item} : (path, item) ∈ document.paths → Tells document path
  | operationId {path item method operation id} : (path, item) ∈ document.paths →
      item.operation? method = some operation → operation.operationId = some id → Tells document id
  | parameter {path item method operation parameter name} : (path, item) ∈ document.paths →
      item.operation? method = some operation → parameter ∈ operation.parameters → parameter.name = some name →
      Tells document name
  | schema {name schema} : (name, schema) ∈ document.schemas → Tells document name
  | property {name schema property content} : (name, schema) ∈ document.schemas →
      (property, content) ∈ schema.properties → Tells document property

theorem Server.within_pieces {server : Server} (url : Within kind server.url) :
    (∀ name, .placeholder name ∈ server.pieces → Within kind (String.ofList name)) ∧
      ∀ character, .literal character ∈ server.pieces → kind character := by
  have written := (Template.decomposes_pieces server.url.toList).written
  have inside : ∀ piece ∈ server.pieces, ∀ character ∈ piece.text, kind character := by
    intro piece member character present
    apply url
    rw [← written]
    exact List.mem_flatMap.mpr ⟨piece, member, present⟩
  constructor
  · intro name member
    rw [Text.within_ofList]
    intro character present
    apply inside _ member
    simp [Template.Piece.text, present]
  · intro character member
    exact inside _ member character List.mem_cons_self

private theorem Server.within_resolved {server : Server} (url : Within kind server.url)
    (defaults : ∀ name declared, (name, declared) ∈ server.bindings → Within kind declared.default) :
    Within kind server.resolved := by
  rw [resolved, Text.within_ofList]
  intro character member
  obtain ⟨piece, inside, member⟩ := List.mem_flatMap.mp member
  cases piece with
  | literal own =>
    obtain rfl := List.mem_singleton.mp member
    exact (within_pieces url).2 character inside
  | placeholder name =>
    rw [expand, default?] at member
    cases found : server.bindings.lookup (String.ofList name) with
    | none =>
      rw [found] at member
      cases member
    | some declared =>
      rw [found] at member
      exact defaults _ declared (Table.mem_of_lookup found) character member

namespace Document

variable {document : Document} {config : Config}

/-- If the texts of a document keep to a kind of characters, then what is reported of it does. -/
theorem Reports.within (wording : CoversWording kind) (told : ∀ text, document.Tells text → Within kind text)
    {site : Site} {violation : Violation} (reported : document.Reports config site violation) :
    ∀ text ∈ violation.texts, Within kind text := by
  cases reported with
  | noLicense | emptyLicense | description | noContact | emptyContact => exact wording.texts (by decide)
  | placeholder here there =>
    have url := told _ (.url (List.mem_of_getElem? here))
    exact wording.undeclared url ((Server.within_pieces url).1 _ (List.mem_of_getElem? there))
  | url here =>
    have server := List.mem_of_getElem? here
    have defaults : ∀ name declared, (name, declared) ∈ Server.bindings _ → Within kind declared.default :=
      fun name declared member => told _ (.default server member)
    exact wording.invalidUrl (Server.within_resolved (told _ (.url server)) defaults)
  | missing here _ _ => exact wording.lack (told _ (.path (List.mem_of_getElem? here))) _ _ _
  | @repeated _ _ _ method _ _ here present own =>
    have member := List.mem_of_getElem? here
    have id := told _ (.operationId member present own)
    exact wording.named id _ _ (wording.place (told _ (.path member)) (some method))
  | sample here there =>
    have member := List.mem_of_getElem? here
    exact wording.missingModel (told _ (.schema member)) (told _ (.property member (List.mem_of_getElem? there)))
  | @property _ name _ _ _ _ here there =>
    have member := List.mem_of_getElem? here
    have place : Within kind (Place.model name).text :=
      Text.within_append.mpr ⟨wording.text (by decide), told _ (.schema member)⟩
    exact wording.named (told _ (.property member (List.mem_of_getElem? there))) _ _ place
  | @parameter _ _ _ method _ _ _ _ here present there named =>
    have member := List.mem_of_getElem? here
    have name := told _ (.parameter member present (List.mem_of_getElem? there) named)
    exact wording.named name _ _ (wording.place (told _ (.path member)) (some method))
  | @segment _ _ _ _ segment here there =>
    have path := told _ (.path (List.mem_of_getElem? here))
    have inside : Within kind segment := fun character member =>
      path character (Text.mem_of_mem_splitOn (List.mem_of_getElem? there) member)
    exact wording.named inside _ _ (wording.place path none)

private theorem within_of_reports (wording : CoversWording kind) (told : ∀ text, document.Tells text → Within kind text)
    {sites : List Site} {violations : List Violation}
    (reported : List.Forall₂ (document.Reports config) sites violations) :
    ∀ violation ∈ violations, ∀ text ∈ violation.texts, Within kind text := by
  induction reported with
  | nil => exact List.forall_mem_nil _
  | cons here _ ih => exact List.forall_mem_cons.mpr ⟨here.within wording told, ih⟩

theorem within_of_validated (wording : CoversWording kind) (told : ∀ text, document.Tells text → Within kind text)
    {violations : List Violation} (validated : ({} : Validator).validate? document config = some violations) :
    ∀ violation ∈ violations, ∀ text ∈ violation.texts, Within kind text := by
  intro violation member
  obtain ⟨info, _, rfl⟩ := Validator.validate?_eq_some validated
  obtain ⟨pass, _, member⟩ := List.mem_flatMap.mp member
  obtain ⟨sites, reported, _⟩ := pass.ordered_contribution info
  exact within_of_reports wording told reported violation member

/-- A document with a path and nothing else. -/
def ofPath (path : String) : Document where
  info := some {}
  paths := [(path, {})]

/-- Whatever characters a path has, it comes back from an escaped text. -/
theorem ofPath_loaded {path : String} (kept : ¬ "x-".toList <+: path.toList) :
    ofJson (ofPath path).toJson.compactText = .ok (ofPath path) := by
  apply ofJson_compactText
  exact {
    bindings := List.forall_mem_nil _
    paths := List.nodup_singleton path
    extensions := List.forall_mem_singleton.mpr kept
    schemas := List.nodup_nil
    restorable := List.forall_mem_nil _
    nesting := Nat.le_of_ble_eq_true rfl }

end Document

/-- The check of the names alone. -/
def Config.namesOnly : Config where
  enabled toggle := toggle = .naming

/-- A path of one segment that is not a name in the usual convention. -/
def Violation.ofSegment (segment : String) : Violation :=
  .naming segment .path (.convention .hyphenCase) (.operation ("/" ++ segment) none)

end ApiStyle
