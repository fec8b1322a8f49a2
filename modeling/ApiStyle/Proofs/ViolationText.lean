import ApiStyle.Proofs.JsonText
import ApiStyle.Proofs.Nesting
import ApiStyle.Proofs.StoredTrees
import ApiStyle.Validator
import ApiStyle.Violation.Json

/-! Violations are read back from their JSON texts. A form of a violation is a record whose members may come in any
order, so a tree is read alike as it is written and as it is stored, with its objects sorted. -/

namespace ApiStyle

open Json Source

variable {σ α : Type}

namespace Json.Content

/-- The members of an object are collected into a record, in whatever order they come. -/
inductive Collects (fields : List (Field Content Json σ)) : List (String × Json) → σ → σ → Prop
  | nil {record} : Collects fields [] record record
  | member {key value field members record changed final} : fields.find? (·.name = key) = some field →
      field.read value record = .ok changed → Collects fields members changed final →
      Collects fields ((key, value) :: members) record final

private theorem readNamed_collects {fields : List (Field Content Json σ)} {members : List (String × Json)}
    {record final : σ} (collects : Collects fields members record final) (distinct : (members.map Prod.fst).Nodup)
    (index : Nat) (seen : List String) (unseen : ∀ key ∈ members.map Prod.fst, key ∉ seen) :
    readNamed .skipped fields index (entriesFrom index members) seen record =
      .ok (final, .named ((members.map Prod.fst).reverse ++ seen)) := by
  induction collects generalizing index seen with
  | nil => rfl
  | @member key value field members record changed final found read _ ih =>
    obtain ⟨fresh, unseen⟩ := List.forall_mem_cons.mp unseen
    obtain ⟨absent, distinct⟩ := List.nodup_cons.mp distinct
    have later : ∀ other ∈ members.map Prod.fst, other ∉ key :: seen := by
      intro other present again
      rcases List.mem_cons.mp again with rfl | again
      · exact absent present
      · exact unseen other present again
    refine bind_eq_ok.mpr ⟨key, rfl, ?_⟩
    rw [found]
    dsimp only
    rw [if_neg fresh]
    refine bind_eq_ok.mpr ⟨changed, read, ?_⟩
    rw [ih distinct (index + 1) (key :: seen) later, List.map_cons, List.reverse_cons, List.append_assoc]
    rfl

private theorem readRecord_collects {expected : String} {fields : List (Field Content Json σ)}
    {members : List (String × Json)} {initial final : σ} (collects : Collects fields members initial final)
    (distinct : (members.map Prod.fst).Nodup) {finish : σ → Source.Given → Content α} {value : α}
    (finished : finish final (.named (members.map Prod.fst).reverse) = .ok value) :
    readRecord (m := Content) expected fields initial (.object members) finish = .ok value := by
  have read := readNamed_collects collects distinct 0 [] fun _ _ => List.not_mem_nil
  rw [List.append_nil] at read
  exact bind_eq_ok.mpr ⟨_, rfl, bind_eq_ok.mpr ⟨_, rfl, bind_eq_ok.mpr ⟨_, read, finished⟩⟩⟩

end Json.Content

open Json.Content

private theorem Section.decode_name (part : Section) : Section.decode (.string part.name) = .ok part := by
  cases part <;> rfl

private theorem Identifier.decode_name (kind : Identifier) : Identifier.decode (.string kind.name) = .ok kind := by
  cases kind <;> rfl

private theorem Method.decode_name (method : Method) : Method.decode (.string method.name) = .ok method := by
  cases method <;> rfl

private theorem Issue.decode_toJson (issue : Issue) :
    decode issue.toJson = .ok issue ∧ decode issue.toJson.sorted = .ok issue := by
  cases issue with
  | convention expected => cases expected <;> exact ⟨rfl, rfl⟩
  | notUnique => exact ⟨rfl, rfl⟩

private theorem Place.decode_toJson (place : Place) :
    decode place.toJson = .ok place ∧ decode place.toJson.sorted = .ok place := by
  cases place with
  | operation path method =>
    cases method with
    | none => exact ⟨rfl, rfl⟩
    | some method => cases method <;> exact ⟨rfl, rfl⟩
  | model name => exact ⟨rfl, rfl⟩

namespace Violation

theorem readForm_collects {expected : String} {fields : List (Field Content Json Parts)}
    {members : List (String × Json)} (parts : Parts) (collects : Collects fields members {} parts)
    (distinct : (members.map Prod.fst).Nodup)
    (complete : ∀ field ∈ fields, field.name ∈ members.map Prod.fst) {build : Parts → Violation} {violation : Violation}
    (built : build parts = violation) : readForm expected fields (.object members) build = .ok violation := by
  refine readRecord_collects collects distinct ?_
  have found : ((fields.map Field.name).find? fun name => name ∉ (members.map Prod.fst).reverse) = none := by
    rw [List.find?_eq_none]
    simpa using complete
  rw [require, found]
  exact congrArg Except.ok built

private theorem decodeForm_generic (part : Section) (field message : String) :
    decodeForm "generic" (.object [("section", .string part.name), ("field", .string field),
      ("message", .string message)]) = .ok (.generic part field message) ∧
    decodeForm "generic" (.object [("field", .string field), ("message", .string message),
      ("section", .string part.name)]) = .ok (.generic part field message) := by
  have partRead := part.decode_name
  constructor
  all_goals rw [decodeForm, if_pos rfl]
  · refine readForm_collects { part := part, field := field, message := message } ?_ (by simp)
      (by simp [fieldPart, messagePart]) rfl
    refine .member rfl (bind_eq_ok.mpr ⟨part, partRead, rfl⟩) ?_
    exact .member rfl rfl (.member rfl rfl .nil)
  · refine readForm_collects { part := part, field := field, message := message } ?_ (by simp)
      (by simp [fieldPart, messagePart]) rfl
    refine .member rfl rfl (.member rfl rfl ?_)
    exact .member rfl (bind_eq_ok.mpr ⟨part, partRead, rfl⟩) .nil

private theorem decodeForm_operation (field message path : String) (method : Method) :
    decodeForm "operation" (.object [("field", .string field), ("message", .string message), ("path", .string path),
      ("method", .string method.name)]) = .ok (.operation field message path method) ∧
    decodeForm "operation" (.object [("field", .string field), ("message", .string message),
      ("method", .string method.name), ("path", .string path)]) = .ok (.operation field message path method) := by
  have methodRead := method.decode_name
  constructor
  all_goals rw [decodeForm, if_neg (by decide), if_pos rfl]
  · refine readForm_collects { field := field, message := message, path := path, method := method } ?_ (by simp)
      (by simp [fieldPart, messagePart]) rfl
    refine .member rfl rfl (.member rfl rfl (.member rfl rfl ?_))
    exact .member rfl (bind_eq_ok.mpr ⟨method, methodRead, rfl⟩) .nil
  · refine readForm_collects { field := field, message := message, path := path, method := method } ?_ (by simp)
      (by simp [fieldPart, messagePart]) rfl
    refine .member rfl rfl (.member rfl rfl ?_)
    refine .member rfl (bind_eq_ok.mpr ⟨method, methodRead, rfl⟩) ?_
    exact .member rfl rfl .nil

private theorem decodeForm_model (field message schema property : String) :
    decodeForm "model" (.object [("field", .string field), ("message", .string message), ("model", .string schema),
      ("property", .string property)]) = .ok (.model field message schema property) := by
  rw [decodeForm, if_neg (by decide), if_neg (by decide), if_pos rfl]
  refine readForm_collects { field := field, message := message, schema := schema, property := property } ?_ (by simp)
    (by simp [fieldPart, messagePart]) rfl
  exact .member rfl rfl (.member rfl rfl (.member rfl rfl (.member rfl rfl .nil)))

private theorem decodeForm_naming {subject : String} {kind : Identifier} {issue : Issue} {place : Place}
    {issueTree placeTree : Json} (issueRead : Issue.decode issueTree = .ok issue)
    (placeRead : Place.decode placeTree = .ok place) :
    decodeForm "naming" (.object [("subject", .string subject), ("kind", .string kind.name), ("issue", issueTree),
      ("location", placeTree)]) = .ok (.naming subject kind issue place) ∧
    decodeForm "naming" (.object [("issue", issueTree), ("kind", .string kind.name), ("location", placeTree),
      ("subject", .string subject)]) = .ok (.naming subject kind issue place) := by
  have kindRead := kind.decode_name
  constructor
  all_goals rw [decodeForm, if_neg (by decide), if_neg (by decide), if_neg (by decide)]
  · refine readForm_collects { field := subject, kind := kind, issue := issue, place := place } ?_ (by simp)
      (by simp) rfl
    refine .member rfl rfl (.member rfl (bind_eq_ok.mpr ⟨kind, kindRead, rfl⟩) ?_)
    refine .member rfl (bind_eq_ok.mpr ⟨issue, issueRead, rfl⟩) ?_
    exact .member rfl (bind_eq_ok.mpr ⟨place, placeRead, rfl⟩) .nil
  · refine readForm_collects { field := subject, kind := kind, issue := issue, place := place } ?_ (by simp)
      (by simp) rfl
    refine .member rfl (bind_eq_ok.mpr ⟨issue, issueRead, rfl⟩) ?_
    refine .member rfl (bind_eq_ok.mpr ⟨kind, kindRead, rfl⟩) ?_
    refine .member rfl (bind_eq_ok.mpr ⟨place, placeRead, rfl⟩) ?_
    exact .member rfl rfl .nil

private theorem splitMembers_plain {members : List (String × Json)} (plain : ∀ member ∈ members, member.1 ≠ "type")
    (whole : ∀ member ∈ members, Draft.tree (nestingLimit - 1) member.2.toDraft = .ok member.2)
    (tag : Option String) : splitMembers (toDraftMembers members) tag = .ok (tag, members) := by
  induction members with
  | nil => rfl
  | cons member members ih =>
    obtain ⟨key, value⟩ := member
    obtain ⟨other, plain⟩ := List.forall_mem_cons.mp plain
    obtain ⟨read, whole⟩ := List.forall_mem_cons.mp whole
    refine bind_eq_ok.mpr ⟨key, rfl, ?_⟩
    rw [if_neg other]
    exact bind_eq_ok.mpr ⟨value, read, bind_eq_ok.mpr ⟨_, ih plain whole, rfl⟩⟩

/-- The tag may stand anywhere among the members. -/
theorem splitMembers_eq {before after : List (String × Json)} {form : String} (known : form ∈ forms)
    (plain : ∀ member ∈ before ++ after, member.1 ≠ "type")
    (whole : ∀ member ∈ before ++ after, Draft.tree (nestingLimit - 1) member.2.toDraft = .ok member.2) :
    splitMembers (toDraftMembers (before ++ ("type", .string form) :: after)) none =
      .ok (some form, before ++ after) := by
  induction before with
  | nil =>
    have tagRead : readTag (toDraft (.string form)) = .ok form := if_pos known
    refine bind_eq_ok.mpr ⟨"type", rfl, ?_⟩
    rw [if_pos rfl]
    exact bind_eq_ok.mpr ⟨form, tagRead, splitMembers_plain plain whole (some form)⟩
  | cons member before ih =>
    obtain ⟨key, value⟩ := member
    obtain ⟨other, plain⟩ := List.forall_mem_cons.mp plain
    obtain ⟨read, whole⟩ := List.forall_mem_cons.mp whole
    refine bind_eq_ok.mpr ⟨key, rfl, ?_⟩
    rw [if_neg other]
    exact bind_eq_ok.mpr ⟨value, read, bind_eq_ok.mpr ⟨_, ih plain whole, rfl⟩⟩

theorem decode_object (before after : List (String × Json)) {form : String} {violation : Violation}
    (known : form ∈ forms) (plain : ∀ member ∈ before ++ after, member.1 ≠ "type")
    (words : (Json.object (before ++ ("type", .string form) :: after)).HasNumbers Numeral.IsWord)
    (shallow : (Json.object (before ++ ("type", .string form) :: after)).depth ≤ nestingLimit)
    (formRead : decodeForm form (.object (before ++ after)) = .ok violation) :
    decode (toDraft (.object (before ++ ("type", .string form) :: after))) = .ok violation := by
  have whole : ∀ member ∈ before ++ after, Draft.tree (nestingLimit - 1) member.2.toDraft = .ok member.2 := by
    intro member present
    have present : member ∈ before ++ ("type", .string form) :: after :=
      List.mem_append.mpr ((List.mem_append.mp present).imp_right (List.mem_cons_of_mem _))
    cases words with
    | object words => exact Draft.tree_toDraft (words member present) (depth_object_le.mp shallow member present)
  have parts := splitMembers_eq known plain whole
  exact bind_eq_ok.mpr ⟨_, parts, mapError_eq_ok.mpr formRead⟩

end Violation

private theorem Issue.hasNumbers_toJson {number : Numeral → Prop} (issue : Issue) : issue.toJson.HasNumbers number := by
  cases issue
  all_goals
    refine .object ?_
    simp only [List.forall_mem_cons]
  · exact ⟨.string, .string, List.forall_mem_nil _⟩
  · exact ⟨.string, List.forall_mem_nil _⟩

private theorem Place.hasNumbers_toJson {number : Numeral → Prop} (place : Place) : place.toJson.HasNumbers number := by
  cases place with
  | operation path method =>
    refine .object ?_
    simp only [List.forall_mem_cons]
    refine ⟨.string, .string, ?_, List.forall_mem_nil _⟩
    cases method with
    | none => exact .null
    | some method => exact .string
  | model name =>
    refine .object ?_
    simp only [List.forall_mem_cons]
    exact ⟨.string, .string, List.forall_mem_nil _⟩

namespace Violation

theorem hasNumbers_toJson {number : Numeral → Prop} (violation : Violation) : violation.toJson.HasNumbers number := by
  cases violation
  all_goals
    refine .object ?_
    simp only [List.forall_mem_cons]
  case generic => exact ⟨.string, .string, .string, .string, List.forall_mem_nil _⟩
  case operation => exact ⟨.string, .string, .string, .string, .string, List.forall_mem_nil _⟩
  case model => exact ⟨.string, .string, .string, .string, .string, List.forall_mem_nil _⟩
  case naming subject kind issue place =>
    exact ⟨.string, .string, .string, issue.hasNumbers_toJson, place.hasNumbers_toJson, List.forall_mem_nil _⟩

theorem depth_toJson_le (violation : Violation) : violation.toJson.depth ≤ 2 := by
  cases violation with
  | generic | operation | model => exact Nat.le_of_ble_eq_true rfl
  | naming subject kind issue place =>
    cases issue <;> cases place with
    | operation path method => cases method <;> exact Nat.le_of_ble_eq_true rfl
    | model => exact Nat.le_of_ble_eq_true rfl

/-- A violation is read back from its tree, and from its tree as it is stored. -/
theorem decode_toJson (violation : Violation) :
    decode violation.toJson.toDraft = .ok violation ∧ decode violation.toJson.sorted.toDraft = .ok violation := by
  have words : violation.toJson.HasNumbers Numeral.IsWord := violation.hasNumbers_toJson
  have shallow : violation.toJson.depth ≤ nestingLimit := Nat.le_trans violation.depth_toJson_le (by decide)
  have storedWords := words.sorted
  have storedShallow := depth_sorted_le shallow
  cases violation with
  | generic part field message =>
    obtain ⟨written, stored⟩ := decodeForm_generic part field message
    constructor
    · exact decode_object [] _ (by decide) (by simp) words shallow written
    · exact decode_object [_, _, _] [] (by decide) (by simp) storedWords storedShallow stored
  | operation field message path method =>
    obtain ⟨written, stored⟩ := decodeForm_operation field message path method
    constructor
    · exact decode_object [] _ (by decide) (by simp) words shallow written
    · exact decode_object [_, _, _, _] [] (by decide) (by simp) storedWords storedShallow stored
  | model field message schema property =>
    have read := decodeForm_model field message schema property
    constructor
    · exact decode_object [] _ (by decide) (by simp) words shallow read
    · exact decode_object [_, _, _, _] [] (by decide) (by simp) storedWords storedShallow read
  | naming subject kind issue place =>
    obtain ⟨issueRead, issueStored⟩ := issue.decode_toJson
    obtain ⟨placeRead, placeStored⟩ := place.decode_toJson
    constructor
    · exact decode_object [] _ (by decide) (by simp) words shallow (decodeForm_naming issueRead placeRead).1
    · exact decode_object [_, _, _, _] [] (by decide) (by simp) storedWords storedShallow
        (decodeForm_naming issueStored placeStored).2

/-- Decoding a text gives this violation again, and with it all that is shown of it. -/
def ComesBackFrom (violation : Violation) (text : String) : Prop :=
  ∃ read, Json.decodeText decode text = .ok read ∧ read = violation ∧
    read.line = violation.line ∧ read.part = violation.part ∧ read.field = violation.field ∧
    read.message = violation.message ∧ read.place = violation.place ∧ read.pass.id = violation.pass.id

private theorem comesBack_of_isReadFrom {violation : Violation} {text : String}
    (told : violation.toJson.IsReadFrom text) :
    violation.ComesBackFrom text := by
  refine ⟨violation, ?_, rfl, rfl, rfl, rfl, rfl, rfl, rfl⟩
  rw [decodeText, told]
  exact bind_eq_ok.mpr ⟨violation, violation.decode_toJson.1, rfl⟩

/-- Whatever texts a violation holds, neither of its written forms loses anything of it. -/
theorem comesBack_from_texts (violation : Violation) :
    violation.ComesBackFrom violation.toJson.compactText ∧ violation.ComesBackFrom violation.toJson.prettyText := by
  have compact : violation.toJson.IsReadFrom (violation.toJson.compactText ++ "") := isReadFrom_compactText _ Blank.nil
  have pretty : violation.toJson.IsReadFrom (violation.toJson.prettyText ++ "") := isReadFrom_prettyText _ Blank.nil
  rw [String.append_empty] at compact pretty
  exact ⟨comesBack_of_isReadFrom compact, comesBack_of_isReadFrom pretty⟩

end Violation

end ApiStyle
