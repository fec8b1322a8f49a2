import ApiStyle.Proofs.MemberReading

/-! What a document is made of, and the decoders that read it. A property of decoders that is passed on from the
decoders of parts to those of lists, maps, paths and records holds of the decoder of documents. -/

namespace ApiStyle

namespace Json

open Source

/-- The objects that have fields. -/
inductive Kind where
  | document | info | license | contact | server | serverVariable | pathItem | operation | parameter | components
  | schema
deriving DecidableEq, Repr

/-- What stands at a place of a document. -/
inductive Role where
  | record (kind : Kind)
  | list (each : Role)
  | map (each : Role)
  | paths
  /-- the name of a variant -/
  | variant
  /-- a text, a list of texts or an example, none of which has a part with fields -/
  | other
deriving DecidableEq, Repr

/-- The fields of an object, and what stands in each of them. -/
def Kind.fields : Kind → List (String × Role)
  | document => [("openapi", .other), ("info", .record info), ("servers", .list (.record server)), ("paths", .paths),
      ("components", .record components)]
  | info => [("title", .other), ("version", .other), ("description", .other), ("license", .record license),
      ("contact", .record contact)]
  | license => [("name", .other), ("url", .other)]
  | contact => [("name", .other), ("url", .other), ("email", .other)]
  | server => [("url", .other), ("description", .other), ("variables", .map (.record serverVariable))]
  | serverVariable => [("default", .other), ("enum", .other), ("description", .other)]
  | pathItem => ["get", "put", "post", "delete", "options", "head", "patch", "trace"].map fun method =>
      (method, .record operation)
  | operation => [("operationId", .other), ("summary", .other), ("description", .other), ("tags", .other),
      ("parameters", .list (.record parameter))]
  | parameter => [("name", .other), ("in", .variant), ("$ref", .other)]
  | components => [("schemas", .map (.record schema))]
  | schema => [("$ref", .other), ("example", .other), ("properties", .map (.record schema))]

theorem Kind.nodup_fields (kind : Kind) : (kind.fields.map Prod.fst).Nodup := by
  cases kind <;> decide

variable {α β σ : Type} {role : Role} {kind : Kind}

section

variable (holds : ∀ {α : Type}, Role → (Draft → Except Fault α) → Prop)

/-- A field of a record is read by a decoder with the property. -/
structure Reads (entry : String × Role) (field : Field (Except Fault) Draft σ) : Prop where
  name : field.name = entry.1
  read : ∃ (β : Type) (decode : Draft → Except Fault β) (put : β → σ → σ),
    holds entry.2 decode ∧ field.read = fun node record => do return put (← decode node) record

/-- The fields of a kind can be read in any order, and what is made of them depends on the names that were given, be it
in an object or by position. -/
structure Assembles (kind : Kind) (fields : List (Field (Except Fault) Draft σ))
    (finish : σ → Source.Given → Except Fault α) (settle : Finset String → σ → Option α) : Prop where
  reads : List.Forall₂ (Reads holds) kind.fields fields
  commute : fields.Pairwise Commute
  named : Settles finish settle
  positional : ∀ count record, (finish record (.positional count)).toOption =
    settle ((fields.take count).map Field.name).toFinset record

/-- A property of decoders is passed on by everything that the decoders of documents are made of. -/
structure Compositional : Prop where
  other : ∀ {α : Type} (decode : Draft → Except Fault α), holds .other decode
  variant : ∀ {α : Type} (decode : Draft → Except Fault α), holds .variant decode
  refusing : ∀ {α : Type} {role : Role} {decode : Draft → Except Fault α}, (∀ tree, (decode tree).toOption = none) →
    holds role decode
  optional : ∀ {α : Type} {role : Role} {decode : Draft → Except Fault α}, holds role decode →
    holds role (Source.optional decode)
  list : ∀ {α : Type} {role : Role} {decode : Draft → Except Fault α}, holds role decode →
    holds (.list role) (Source.sequence decode)
  map : ∀ {α : Type} {role : Role} {decode : Draft → Except Fault α}, holds role decode →
    holds (.map role) (Source.table decode)
  paths : holds (.record .pathItem) (PathItem.decode : Draft → Except Fault PathItem) →
    holds .paths (Paths.decode : Draft → Except Fault (List (String × PathItem)))
  record : ∀ {α σ : Type} {kind : Kind} {expected : String} {fields : List (Field (Except Fault) Draft σ)} {initial : σ}
    {finish : σ → Source.Given → Except Fault α} {settle : Finset String → σ → Option α},
    Assembles holds kind fields finish settle →
      holds (.record kind) fun node => readRecord expected fields initial node finish

end

variable {holds : ∀ {α : Type}, Role → (Draft → Except Fault α) → Prop}

theorem Reads.of {name : String} {decode : Draft → Except Fault β} {put : β → σ → σ} (part : holds role decode) :
    Reads @holds (name, role) ⟨name, fun node record => do return put (← decode node) record⟩ :=
  ⟨rfl, β, decode, put, part, rfl⟩

namespace Reads

variable {entries : List (String × Role)} {fields : List (Field (Except Fault) Draft σ)} {key : String}

theorem unknown (reads : List.Forall₂ (Reads @holds) entries fields) (absent : entries.lookup key = none) :
    fields.find? (·.name = key) = none := by
  induction reads with
  | nil => rfl
  | cons first _ ih =>
    rw [List.lookup_cons] at absent
    split at absent
    · cases absent
    next different =>
      rw [List.find?_cons_of_neg, ih absent]
      rw [first.name, decide_eq_true_eq]
      exact Ne.symm (ne_of_beq_false different)

theorem known (reads : List.Forall₂ (Reads @holds) entries fields) (found : entries.lookup key = some role) :
    ∃ field, fields.find? (·.name = key) = some field ∧ Reads @holds (key, role) field := by
  induction reads with
  | nil => cases found
  | @cons _ field _ _ first _ ih =>
    rw [List.lookup_cons] at found
    split at found
    next same =>
      obtain rfl := Option.some.inj found
      obtain rfl := eq_of_beq same
      refine ⟨field, List.find?_cons_of_pos ?_, first⟩
      rw [first.name, decide_eq_true_eq]
    next different =>
      rw [List.find?_cons_of_neg]
      · exact ih found
      · rw [first.name, decide_eq_true_eq]
        exact Ne.symm (ne_of_beq_false different)

end Reads

/-- Of a server the url has to be given. -/
def settleServer (names : Finset String) (server : Server) : Option Server :=
  if "url" ∈ names then some server else none

namespace Compositional

variable (passes : Compositional @holds)

include passes

theorem defaulted {expected : String} {fields : List (Field (Except Fault) Draft σ)} {initial : σ}
    (reads : List.Forall₂ (Reads @holds) kind.fields fields) (commute : fields.Pairwise Commute) :
    holds (.record kind) (readDefaulted expected fields initial) := by
  have assembles : Assembles @holds kind fields (fun (record : σ) _ => (pure record : Except Fault σ))
      fun _ record => some record :=
    ⟨reads, commute, settles_defaulted, fun _ _ => rfl⟩
  exact passes.record assembles

theorem license : holds (.record .license) (License.decode : Draft → Except Fault License) := by
  apply passes.defaulted
  · exact .cons (.of (passes.other _)) (.cons (.of (passes.other _)) .nil)
  · simp [Commute.of_maps]

theorem contact : holds (.record .contact) (Contact.decode : Draft → Except Fault Contact) := by
  apply passes.defaulted
  · exact .cons (.of (passes.other _)) (.cons (.of (passes.other _)) (.cons (.of (passes.other _)) .nil))
  · simp [Commute.of_maps]

theorem info : holds (.record .info) (Info.decode : Draft → Except Fault Info) := by
  apply passes.defaulted
  · refine .cons (.of (passes.other _)) (.cons (.of (passes.other _)) (.cons (.of (passes.other _)) ?_))
    exact .cons (.of (passes.optional passes.license)) (.cons (.of (passes.optional passes.contact)) .nil)
  · simp [Commute.of_maps]

theorem serverVariable :
    holds (.record .serverVariable) (ServerVariable.decode : Draft → Except Fault ServerVariable) := by
  apply passes.defaulted
  · exact .cons (.of (passes.other _)) (.cons (.of (passes.other _)) (.cons (.of (passes.other _)) .nil))
  · simp [Commute.of_maps]

theorem server : holds (.record .server) (Server.decode : Draft → Except Fault Server) := by
  refine passes.record (show Assembles _ _ _ _ settleServer from ⟨?reads, ?commute, ?named, ?positional⟩)
  case reads =>
    refine .cons (.of (passes.other _)) (.cons (.of (passes.other _)) (.cons (.of ?_) .nil))
    exact passes.map passes.serverVariable
  case commute => simp [Commute.of_maps]
  case named =>
    intro names server
    by_cases given : "url" ∈ names
    · simp [require, settleServer, given]
      rfl
    · simp [require, settleServer, given]
      rfl
  case positional =>
    rintro (_ | count) server
    · rfl
    · simp [require, settleServer]
      rfl

theorem parameter : holds (.record .parameter) (Parameter.decode : Draft → Except Fault Parameter) := by
  apply passes.defaulted
  · exact .cons (.of (passes.other _)) (.cons (.of (passes.variant _)) (.cons (.of (passes.other _)) .nil))
  · simp [Commute.of_maps]

theorem operation : holds (.record .operation) (Operation.decode : Draft → Except Fault Operation) := by
  apply passes.defaulted
  · refine .cons (.of (passes.other _)) (.cons (.of (passes.other _)) (.cons (.of (passes.other _)) ?_))
    exact .cons (.of (passes.other _)) (.cons (.of (passes.list passes.parameter)) .nil)
  · simp [Commute.of_maps]

theorem pathItem : holds (.record .pathItem) (PathItem.decode : Draft → Except Fault PathItem) := by
  apply passes.defaulted
  · have operation := passes.optional passes.operation
    refine .cons (.of operation) (.cons (.of operation) (.cons (.of operation) (.cons (.of operation) ?_)))
    exact .cons (.of operation) (.cons (.of operation) (.cons (.of operation) (.cons (.of operation) .nil)))
  · simp [Commute.of_maps]

theorem schema_of {properties : Draft → Except Fault (List (String × Schema))}
    (inner : holds (.map (.record .schema)) properties) (depth : Nat) :
    holds (.record .schema) (readDefaulted "struct Schema"
      [⟨"$ref", fun value (schema : Schema) =>
         return .mk (← Source.optional text value) schema.sample schema.properties⟩,
       ⟨"example", fun value schema =>
         return .mk schema.reference (← Source.optional (json depth) value) schema.properties⟩,
       ⟨"properties", fun value schema =>
         return .mk schema.reference schema.sample (← properties value)⟩]
      (.mk none none [])) := by
  apply passes.defaulted
  · exact .cons (.of (passes.other _)) (.cons (.of (passes.other _)) (.cons (.of inner) .nil))
  · simp [Commute.of_maps, Schema.reference, Schema.sample, Schema.properties]

/-- Two levels at a time, as properties are read. Where no more containers may nest, everything is refused. -/
theorem schema : ∀ depth, holds (.record .schema) (Schema.decode depth : Draft → Except Fault Schema)
  | 0 => by
    refine passes.refusing fun tree => Option.eq_none_iff_forall_ne_some.mpr fun schema read => ?_
    exact Draft.schema_at_limit tree schema (toOption_eq_some.mp read)
  | 1 => by
    refine passes.schema_of (passes.refusing fun tree => Option.eq_none_iff_forall_ne_some.mpr fun found read => ?_) 0
    exact Draft.properties_at_limit tree [] found (toOption_eq_some.mp read)
  | depth + 2 => passes.schema_of (passes.map (schema depth)) (depth + 1)

theorem components (depth : Nat) :
    holds (.record .components) (Components.decode depth : Draft → Except Fault Components) := by
  apply passes.defaulted
  · exact .cons (.of (passes.map (passes.schema (depth - 2)))) .nil
  · exact List.pairwise_singleton _ _

theorem document (depth : Nat) : holds (.record .document) (Document.decode depth : Draft → Except Fault Document) := by
  apply passes.defaulted
  · refine .cons (.of (passes.other _)) (.cons (.of (passes.optional passes.info)) ?_)
    refine .cons (.of (passes.list passes.server)) (.cons (.of (passes.paths passes.pathItem)) ?_)
    exact .cons (.of (passes.optional (passes.components (depth - 1)))) .nil
  · simp [Commute.of_maps]

end Compositional

end Json

end ApiStyle
