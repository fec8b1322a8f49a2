import ApiStyle.Proofs.Validation
import Mathlib.Data.List.Basic

/-! Passes as programs. A run has one collector, and every pass writes to it while it goes through the document; the
pass over the operations also keeps the ids that it has met. Here each pass is the loops that it consists of, with one
rule for each way of putting programs together: whatever was logged before stays in front, and what is logged behind
it does not depend on it. -/

namespace ApiStyle

/-- Programs that share the collector of a run. -/
abbrev Logging := StateM Sink

namespace Logging

variable {α β : Type}

def log (violation : Violation) : Logging Unit := modify (·.log violation)

def when (on : Bool) (program : Logging Unit) : Logging Unit := if on then program else pure ()

/-- Behind whatever was logged before, the program logs these violations and gives this value. -/
def Adds (program : Logging α) (value : α) (added : List Violation) : Prop :=
  ∀ sink : Sink, program.run sink = (value, sink.logAll added)

namespace Adds

theorem pure (value : α) : Adds (Pure.pure value) value [] := by
  intro sink
  have unchanged : sink.logAll [] = sink := congrArg Sink.mk (List.append_nil sink.violations)
  rw [unchanged]
  rfl

theorem log (violation : Violation) : Adds (Logging.log violation) () [violation] := fun _ => rfl

theorem bind {program : Logging α} {next : α → Logging β} {value : α} {result : β} {added more : List Violation}
    (first : Adds program value added) (rest : Adds (next value) result more) :
    Adds (program >>= next) result (added ++ more) := by
  intro sink
  have joined : (sink.logAll added).logAll more = sink.logAll (added ++ more) :=
    congrArg Sink.mk (List.append_assoc sink.violations added more)
  have last := rest (sink.logAll added)
  rw [joined] at last
  rw [StateT.run_bind, first sink]
  exact last

theorem giving {program : Logging α} {value : α} {added : List Violation} (logs : Adds program value added)
    (result : β) : Adds (do let _ ← program; return result) result added := by
  have both : Adds (do let _ ← program; return result) result (added ++ []) := logs.bind (pure result)
  rwa [List.append_nil] at both

theorem when {on : Bool} {program : Logging Unit} {added : List Violation} (logs : Adds program () added) :
    Adds (Logging.when on program) () (if on then added else []) := by
  unfold Logging.when
  split
  · exact logs
  · exact pure ()

theorem spare {spared : Bool} {program : Logging Unit} {added : List Violation} (logs : Adds program () added) :
    Adds (Logging.when (!spared) program) () (if spared then [] else added) := by
  cases spared with
  | true => exact pure ()
  | false => exact logs

theorem report {on : Bool} {violation : Violation} :
    Adds (Logging.when on (Logging.log violation)) () (if on then some violation else none).toList := by
  cases on with
  | true => exact log violation
  | false => exact pure ()

theorem report_unless {spared : Bool} {violation : Violation} :
    Adds (Logging.when (!spared) (Logging.log violation)) () (if spared then none else some violation).toList := by
  cases spared with
  | true => exact pure ()
  | false => exact log violation

theorem forM {items : List α} {body : α → Logging Unit} {find : α → List Violation}
    (each : ∀ item, Adds (body item) () (find item)) : Adds (items.forM body) () (items.flatMap find) := by
  induction items with
  | nil => exact pure ()
  | cons item rest ih => exact (each item).bind ih

theorem forM_filterMap {items : List α} {body : α → Logging Unit} {find : α → Option Violation}
    (each : ∀ item, Adds (body item) () (find item).toList) : Adds (items.forM body) () (items.filterMap find) := by
  rw [List.filterMap_eq_flatMap_toList]
  exact forM each

end Adds

end Logging

open Logging

namespace Info

/-- Logs that none of the fields of a parent carries a value. -/
def requireAny (present : List Bool) (parent : String) (fields : List String) : Logging Unit :=
  when (!present.any id) (log (.missingAnyOf .info parent fields))

def logLicense (info : Info) : Logging Unit :=
  match info.license with
  | some license => requireAny [hasText license.name, hasText license.url] "license" ["name", "url"]
  | none => log (.missingAttribute .info "license")

def logDescription (info : Info) : Logging Unit :=
  when (!hasText info.description) (log (.missingAttribute .info "description"))

def logContact (info : Info) : Logging Unit :=
  match info.contact with
  | some contact =>
    requireAny [hasText contact.name, hasText contact.url, hasText contact.email] "contact" ["name", "url", "email"]
  | none => log (.missingAttribute .info "contact")

def log (config : Config) (info : Info) : Logging Unit := do
  when (config.enabled .infoLicense) info.logLicense
  when (config.enabled .infoDescription) info.logDescription
  when (config.enabled .infoContact) info.logContact

theorem adds_requireAny (present : List Bool) (parent : String) (fields : List String) :
    Adds (requireAny present parent fields) ()
      (if present.any id then [] else [.missingAnyOf .info parent fields]) :=
  .spare (.log _)

private theorem adds_logLicense (info : Info) : Adds info.logLicense () info.checkLicense := by
  unfold logLicense checkLicense
  cases info.license with
  | none => exact .log _
  | some license =>
    have logs := adds_requireAny [hasText license.name, hasText license.url] "license" ["name", "url"]
    simp only [List.any_cons, List.any_nil, id, Bool.or_false] at logs
    exact logs

private theorem adds_logContact (info : Info) : Adds info.logContact () info.checkContact := by
  unfold logContact checkContact
  cases info.contact with
  | none => exact .log _
  | some contact =>
    have logs := adds_requireAny [hasText contact.name, hasText contact.url, hasText contact.email] "contact"
      ["name", "url", "email"]
    simp only [List.any_cons, List.any_nil, id, Bool.or_false, ← Bool.or_assoc] at logs
    exact logs

private theorem adds_log (config : Config) (info : Info) : Adds (info.log config) () (info.check config) := by
  have description : Adds info.logDescription () info.checkDescription := .spare (.log _)
  rw [check, List.append_assoc]
  exact (Adds.when info.adds_logLicense).bind ((Adds.when description).bind (.when info.adds_logContact))

end Info

namespace Server

/-- Puts what a piece stands for behind the text so far. A placeholder without a variable is logged, and a url with
such a placeholder has no text. -/
def logPiece (server : Server) (text : Option (List Char)) : Template.Piece → Logging (Option (List Char))
  | .literal character => return text.map (· ++ [character])
  | .placeholder name =>
    match server.default? name with
    | some default => return text.map (· ++ default.toList)
    | none => do
      Logging.log (.undeclaredVariable server.url (String.ofList name))
      return none

def log (config : Config) (server : Server) : Logging Unit := do
  match ← server.pieces.foldlM server.logPiece (some []) with
  | some text =>
    let url := String.ofList text
    when (!(url = "/" || Url.isValid config.extraDomains url)) (Logging.log (.invalidServerUrl url))
  | none => return ()

private theorem adds_logPiece (server : Server) (text : Option (List Char)) (piece : Template.Piece) :
    Adds (server.logPiece text piece)
      (if server.undeclared? piece = none then text.map (· ++ server.expand piece) else none)
      ((server.undeclared? piece).toList.map (.undeclaredVariable server.url)) := by
  cases piece with
  | literal character => exact Adds.pure _
  | placeholder name =>
    cases declared : server.default? name with
    | some default =>
      simp only [logPiece, undeclared?, expand, declared, Option.isSome_some, if_true, Option.getD_some]
      exact Adds.pure _
    | none =>
      simp only [logPiece, undeclared?, declared, Option.isSome_none, Bool.false_eq_true, if_false, reduceCtorEq]
      exact (Adds.log _).bind (Adds.pure none)

/-- The pieces are gone through one by one; the text is there in the end if every placeholder has a variable. -/
theorem adds_logPieces (server : Server) (pieces : List Template.Piece) (text : Option (List Char)) :
    Adds (pieces.foldlM server.logPiece text)
      (if pieces.filterMap server.undeclared? = [] then text.map (· ++ pieces.flatMap server.expand) else none)
      ((pieces.filterMap server.undeclared?).map (.undeclaredVariable server.url)) := by
  induction pieces generalizing text with
  | nil =>
    simp only [List.filterMap_nil, if_true, List.flatMap_nil, List.append_nil, Option.map_id', List.map_nil]
    exact Adds.pure text
  | cons piece rest ih =>
    have first := server.adds_logPiece text piece
    rw [List.foldlM_cons, List.flatMap_cons]
    cases known : server.undeclared? piece with
    | none =>
      rw [known, if_pos rfl, Option.toList_none, List.map_nil] at first
      have both : Adds (server.logPiece text piece >>= fun text => rest.foldlM server.logPiece text) _ _ :=
        first.bind (ih _)
      rw [List.nil_append, Option.map_map] at both
      rw [List.filterMap_cons_none known]
      simpa only [Function.comp_def, List.append_assoc] using both
    | some name =>
      rw [known, if_neg (Option.some_ne_none name)] at first
      have both : Adds (server.logPiece text piece >>= fun text => rest.foldlM server.logPiece text) _ _ :=
        first.bind (ih none)
      rw [Option.map_none, ite_self] at both
      rw [List.filterMap_cons_some known, if_neg (List.cons_ne_nil _ _)]
      exact both

theorem adds_log (config : Config) (server : Server) : Adds (server.log config) () (server.check config) := by
  have pieces := server.adds_logPieces server.pieces (some [])
  rw [← undeclared_eq] at pieces
  unfold check
  split
  next complete =>
    rw [complete, if_pos rfl] at pieces
    exact pieces.bind (.spare (.log _))
  next incomplete =>
    rw [if_neg incomplete] at pieces
    rw [← List.append_nil (List.map _ _)]
    exact pieces.bind (Adds.pure ())

end Server

namespace Endpoint

/-- Keeps an id, and logs one that was kept before. -/
def keepId (config : Config) (kept : List String) (endpoint : Endpoint) : Logging (List String) :=
  if config.enabled .operationIdUnique then
    match endpoint.id? with
    | some id =>
      if id ∈ kept then do
        Logging.log (.repeatedOperationId id endpoint.path endpoint.method)
        return kept
      else return id :: kept
    | none => return kept
  else return kept

def log (config : Config) (kept : List String) (endpoint : Endpoint) : Logging (List String) := do
  when (config.enabled .operationId && endpoint.id?.isNone) (Logging.log (endpoint.missing "operationId"))
  let kept ← endpoint.keepId config kept
  when (config.enabled .operationDescription && !hasText endpoint.operation.description)
    (Logging.log (endpoint.missing "description"))
  when (config.enabled .operationSummary && !hasText endpoint.operation.summary)
    (Logging.log (endpoint.missing "summary"))
  when (config.enabled .operationTag && endpoint.operation.tags.all List.isEmpty)
    (Logging.log (.missingOperationItems endpoint.path endpoint.method "tags"))
  return kept

/-- The ids that are kept are those that were seen. If ids need not be unique, nothing is kept and nobody asks. -/
def Keeps (config : Config) (kept seen : List String) : Prop :=
  config.enabled .operationIdUnique → ∀ id, id ∈ kept ↔ id ∈ seen

/-- A part of the loop over all endpoints: it goes on from the ids kept before it, and hands on those kept after it. -/
def Visits (config : Config) (program : List String → Logging (List String)) (endpoints : List Endpoint) : Prop :=
  ∀ kept seen, Keeps config kept seen → ∃ after, Adds (program kept) after (checkFrom config seen endpoints) ∧
    Keeps config after ((endpoints.filterMap id?).reverse ++ seen)

private theorem adds_keepId {config : Config} {kept seen : List String} (keeps : Keeps config kept seen)
    (endpoint : Endpoint) : ∃ after, Adds (endpoint.keepId config kept) after (endpoint.checkUnique config seen) ∧
      Keeps config after (endpoint.id?.toList ++ seen) := by
  unfold keepId checkUnique
  -- The two sides list ids differently only while the rule is off: then the loop keeps none of those that are seen.
  cases unique : config.enabled .operationIdUnique with
  | false =>
    have unasked (after seen : List String) : Keeps config after seen := fun asked => absurd asked (by simp [unique])
    exact ⟨kept, Adds.pure kept, unasked _ _⟩
  | true =>
    simp only [if_true]
    cases endpoint.id? with
    | none => exact ⟨kept, Adds.pure kept, keeps⟩
    | some id =>
      have same : id ∈ kept ↔ id ∈ seen := keeps unique id
      simp only [← same, Option.toList_some, List.singleton_append]
      split
      next known =>
        refine ⟨kept, (Adds.log _).giving kept, fun asked other => ?_⟩
        rw [List.mem_cons, keeps asked]
        constructor
        · exact Or.inr
        · rintro (rfl | before)
          · exact same.mp known
          · exact before
      next new =>
        refine ⟨id :: kept, Adds.pure _, fun asked other => ?_⟩
        rw [List.mem_cons, List.mem_cons, keeps asked]

private theorem visits_log (config : Config) (endpoint : Endpoint) :
    Visits config (log config · endpoint) [endpoint] := by
  intro kept seen keeps
  obtain ⟨after, logs, keepsToo⟩ := adds_keepId keeps endpoint
  refine ⟨after, ?_, ?_⟩
  · have shape : checkFrom config seen [endpoint] = endpoint.checkId config ++ (endpoint.checkUnique config seen ++
      endpoint.checkTexts config) := by simp only [checkFrom, check, List.append_nil, List.append_assoc]
    rw [shape, checkTexts, List.append_assoc]
    exact (Adds.when (.log _)).bind (logs.bind ((Adds.when (.log _)).bind ((Adds.when (.log _)).bind
      ((Adds.when (.log _)).giving after))))
  · cases own : endpoint.id? <;> simpa [own] using keepsToo

namespace Visits

variable {α : Type} {config : Config}

private theorem nil : Visits config pure [] := fun kept _ keeps => ⟨kept, Adds.pure kept, keeps⟩

private theorem append {first rest : List String → Logging (List String)} {before behind : List Endpoint}
    (visits : Visits config first before) (visitsToo : Visits config rest behind) :
    Visits config (fun kept => first kept >>= rest) (before ++ behind) := by
  intro kept seen keeps
  obtain ⟨middle, logs, keepsToo⟩ := visits kept seen keeps
  obtain ⟨after, logsToo, keepsAll⟩ := visitsToo middle _ keepsToo
  refine ⟨after, ?_, ?_⟩
  · rw [checkFrom_append]
    exact logs.bind logsToo
  · rw [List.filterMap_append, List.reverse_append, List.append_assoc]
    exact keepsAll

private theorem foldlM {items : List α} {body : List String → α → Logging (List String)} {endpoints : α → List Endpoint}
    (each : ∀ item, Visits config (body · item) (endpoints item)) :
    Visits config (items.foldlM body) (items.flatMap endpoints) := by
  induction items with
  | nil => exact nil
  | cons item rest ih => exact (each item).append ih

end Visits

end Endpoint

def logOperations (config : Config) (document : Document) : Logging Unit := do
  let _ ← document.paths.foldlM (fun kept (path, item) =>
    item.operations.foldlM (fun kept (method, operation) => Endpoint.log config kept ⟨path, method, operation⟩) kept) []
  return ()

private theorem adds_logOperations (config : Config) (document : Document) :
    Adds (logOperations config document) () (checkOperations config document) := by
  have visits : Endpoint.Visits config (document.paths.foldlM fun kept (path, item) =>
      item.operations.foldlM (fun kept (method, operation) => Endpoint.log config kept ⟨path, method, operation⟩) kept)
      document.endpoints := by
    refine Endpoint.Visits.foldlM fun (path, item) => ?_
    dsimp only
    rw [List.map_eq_flatMap]
    exact Endpoint.Visits.foldlM fun (method, operation) => Endpoint.visits_log config ⟨path, method, operation⟩
  obtain ⟨after, logs, _⟩ := visits [] [] fun _ _ => Iff.rfl
  exact logs.giving ()

/-- Examples that properties lack. -/
def logModels (document : Document) : Logging Unit :=
  document.schemas.forM fun (name, schema) => schema.properties.forM fun (property, content) =>
    when content.lacksExample (log (.missingModelAttribute name property "example"))

private theorem adds_logModels (document : Document) : Adds (logModels document) () (checkModels document) :=
  .forM fun _ => .forM_filterMap fun _ => .report

def logNames (config : Config) (document : Document) : Logging Unit := do
  document.schemas.forM fun (name, schema) => schema.properties.forM fun (property, _) =>
    when (!config.propertyNaming.accepts property)
      (log (.badModelName property .property config.propertyNaming name))
  document.paths.forM fun (path, item) => do
    item.operations.forM fun (method, operation) =>
      (operation.parameters.filterMap (·.checkedName config)).forM fun name =>
        when (!config.parameterNaming.accepts name)
          (log (.badOperationName name .parameter config.parameterNaming path (some method)))
    (literalSegments path).forM fun segment =>
      when (!config.pathNaming.accepts segment) (log (.badOperationName segment .path config.pathNaming path none))

private theorem adds_logNames (config : Config) (document : Document) :
    Adds (logNames config document) () (checkNames config document) := by
  refine Adds.bind (Adds.forM fun (name, schema) => ?_) (Adds.forM fun (path, item) => ?_)
  · exact Adds.forM_filterMap fun (property, _) => Adds.report_unless
  · refine Adds.bind (Adds.forM fun (method, operation) => ?_) ?_
    · dsimp only
      rw [checkParameterNames, ← List.filterMap_filterMap]
      exact Adds.forM_filterMap fun name => Adds.report_unless
    · exact Adds.forM_filterMap fun segment => Adds.report_unless

namespace Pass

/-- A pass as a program, which logs what it finds as soon as it finds it. -/
def log (pass : Pass) (subject : Subject) : Logging Unit :=
  match pass with
  | info => subject.info.log subject.config
  | servers => subject.document.servers.forM (Server.log subject.config)
  | operations => logOperations subject.config subject.document
  | models => logModels subject.document
  | naming => logNames subject.config subject.document

theorem adds_log (pass : Pass) (subject : Subject) : Adds (pass.log subject) () (pass.findings subject) := by
  cases pass with
  | info => exact Info.adds_log subject.config subject.info
  | servers => exact Adds.forM (Server.adds_log subject.config)
  | operations => exact adds_logOperations subject.config subject.document
  | models => exact adds_logModels subject.document
  | naming => exact adds_logNames subject.config subject.document

theorem run_eq_log (pass : Pass) (subject : Subject) (sink : Sink) : pass.run subject sink =
    if pass.isEnabled subject.config then ((pass.log subject).run sink).2 else sink := by
  rw [run, pass.adds_log subject sink]

end Pass

/-- Lists of passes can be run apart, down to single passes, and their results put together. For a pass leaves what
was logged before it in front, and what it logs behind that is what it finds, whatever was logged. -/
theorem validate?_append {document : Document} {info : Info} (present : document.info = some info) (config : Config) :
    (∀ first second : List Pass, ∃ before after,
      (⟨first⟩ : Validator).validate? document config = some before ∧
      (⟨second⟩ : Validator).validate? document config = some after ∧
      (⟨first ++ second⟩ : Validator).validate? document config = some (before ++ after)) ∧
    (∀ (pass : Pass) (subject : Subject) (sink : Sink),
      ((pass.log subject).run sink).2.violations = sink.violations ++ pass.findings subject ∧
      pass.run subject sink = if pass.isEnabled subject.config then ((pass.log subject).run sink).2 else sink) ∧
    ∃ results, Pass.all.mapM (fun pass => (⟨[pass]⟩ : Validator).validate? document config) = some results ∧
      ({} : Validator).validate? document config = some results.flatten := by
  refine ⟨fun first second => ?_, fun pass subject sink => ⟨?_, pass.run_eq_log subject sink⟩, ?_⟩
  · refine ⟨_, _, Validator.validate?_of_info present config first, Validator.validate?_of_info present config second, ?_⟩
    rw [Validator.validate?_of_info present config, List.flatMap_append]
  · rw [pass.adds_log subject sink, Sink.violations_logAll]
  · refine ⟨Pass.all.map (·.contribution ⟨document, info, config⟩), ?_, ?_⟩
    · simp only [Validator.validate?_of_info present config, List.flatMap_singleton]
      exact List.mapM_pure
    · rw [Validator.validate?_of_info present config, List.flatMap_def]

/-- A pass that keeps ids runs again, behind itself and another one, and reports the repeated id once more. -/
theorem rough_append : Document.rough.info = some {} ∧
    ∃ before after, (⟨[.operations, .naming]⟩ : Validator).validate? .rough {} = some before ∧ before.length = 9 ∧
      (⟨[.operations]⟩ : Validator).validate? .rough {} = some after ∧ after.length = 7 ∧
      (⟨[.operations, .naming, .operations]⟩ : Validator).validate? .rough {} = some (before ++ after) := by
  obtain ⟨before, after, first, second, together⟩ :=
    (@validate?_append .rough _ rfl {}).1 [.operations, .naming] [.operations]
  have nine : ((⟨[.operations, .naming]⟩ : Validator).validate? .rough {}).map List.length = some 9 := rfl
  have seven : ((⟨[.operations]⟩ : Validator).validate? .rough {}).map List.length = some 7 := rfl
  rw [first] at nine
  rw [second] at seven
  exact ⟨rfl, before, after, first, Option.some.inj nine, second, Option.some.inj seven, together⟩

end ApiStyle
