import ApiStyle.Proofs.DocumentParts
import ApiStyle.Proofs.FlowNodes
import ApiStyle.Proofs.StoredTrees
import ApiStyle.Json.Decode
import ApiStyle.Yaml.Decode

/-! What decoders return for the nodes of portable JSON. It is what they return for the JSON text if the tree has its
records as objects and its variants as names. JSON also takes arrays for records and objects for variants, and those
the decoders refuse here. -/

namespace ApiStyle

/-- All records of a tree are objects, and all variants are names, or absent. What stands at other places, or in members
that no field has the name of, does not matter. -/
inductive Json.ByName : Role → Json → Prop
  | null {role} : ByName role .null
  | other {tree} : ByName .other tree
  | variant {name} : ByName .variant (.string name)
  | record {kind members} (fields : ∀ member ∈ members, ∀ role, kind.fields.lookup member.1 = some role →
      ByName role member.2) : ByName (.record kind) (.object members)
  | list {role items} (each : ∀ item ∈ items, ByName role item) : ByName (.list role) (.array items)
  | map {role members} (each : ∀ member ∈ members, ByName role member.2) : ByName (.map role) (.object members)
  | paths {members} (each : ∀ member ∈ members, Paths.isExtension member.1 = false →
      ByName (.record .pathItem) member.2) : ByName .paths (.object members)

namespace Yaml

open Source
open Json (Role Kind ByName)

variable {α β σ : Type} {role : Role} {kind : Kind}

private theorem byName_record {members : List (String × Json)} : ByName (.record kind) (.object members) ↔
    ∀ member ∈ members, ∀ role, kind.fields.lookup member.1 = some role → ByName role member.2 :=
  ⟨fun | .record fields => fields, .record⟩

private theorem byName_list {items : List Json} :
    ByName (.list role) (.array items) ↔ ∀ item ∈ items, ByName role item :=
  ⟨fun | .list each => each, .list⟩

private theorem byName_map {members : List (String × Json)} :
    ByName (.map role) (.object members) ↔ ∀ member ∈ members, ByName role member.2 :=
  ⟨fun | .map each => each, .map⟩

theorem byName_paths {members : List (String × Json)} : ByName .paths (.object members) ↔
    ∀ member ∈ members, Paths.isExtension member.1 = false → ByName (.record .pathItem) member.2 :=
  ⟨fun | .paths each => each, .paths⟩

/-- The refusal of a container of the wrong shape. -/
inductive IsMisshapen : Fault → Prop
  | sequence {path position expected} : IsMisshapen (.refused path position (.invalidType .sequence expected))
  | mapping {path position expected} : IsMisshapen (.refused path position (.invalidType .map expected))

/-- A program returns a value, without following an alias, if what it reads has the right shape, and else it refuses a
container for its shape. -/
def Arrives (shaped : Prop) (program : Reading α) (value : α) : Prop :=
  ∀ anchors followed, (shaped ∧ program anchors followed = .ok (value, followed)) ∨
    (¬ shaped ∧ ∃ fault, program anchors followed = .error fault ∧ IsMisshapen fault)

theorem Reading.bind_apply (program : Reading α) (next : α → Reading β) (anchors : Anchors) (followed : Nat) :
    (program >>= next) anchors followed = program anchors followed >>= fun found => next found.1 anchors found.2 := rfl

namespace Arrives

variable {shaped other : Prop} {program : Reading α} {value : α}

theorem pure (value : α) : Arrives True (Pure.pure value) value := fun _ _ => Or.inl ⟨trivial, rfl⟩

theorem congr (arrives : Arrives shaped program value) (same : shaped ↔ other) : Arrives other program value :=
  propext same ▸ arrives

theorem bind {next : α → Reading β} {middle : α} {value : β} (first : Arrives shaped program middle)
    (rest : Arrives other (next middle) value) : Arrives (shaped ∧ other) (program >>= next) value := by
  intro anchors followed
  rw [Reading.bind_apply]
  rcases first anchors followed with ⟨fits, returned⟩ | ⟨misfits, fault, refused, misshapen⟩
  · rw [returned]
    rcases rest anchors followed with ⟨fitsToo, returned⟩ | ⟨misfits, refusal⟩
    · exact Or.inl ⟨⟨fits, fitsToo⟩, returned⟩
    · exact Or.inr ⟨fun both => misfits both.2, refusal⟩
  · rw [refused]
    exact Or.inr ⟨fun both => misfits both.1, fault, rfl, misshapen⟩

theorem bind_left {next : α → Reading β} {middle : α} {value : β} (first : Arrives shaped program middle)
    (rest : Arrives True (next middle) value) : Arrives shaped (program >>= next) value :=
  (first.bind rest).congr (and_iff_left trivial)

theorem bind_right {next : α → Reading β} {middle : α} {value : β} (first : Arrives True program middle)
    (rest : Arrives shaped (next middle) value) : Arrives shaped (program >>= next) value :=
  (first.bind rest).congr (and_iff_right trivial)

theorem mapFault {change : Fault → Fault} (arrives : Arrives shaped program value)
    (kept : ∀ fault, IsMisshapen fault → IsMisshapen (change fault)) :
    Arrives shaped (Node.mapFault change program) value := by
  intro anchors followed
  rcases arrives anchors followed with ⟨fits, returned⟩ | ⟨misfits, fault, refused, misshapen⟩
  · exact Or.inl ⟨fits, by rw [Node.mapFault, returned]; rfl⟩
  · exact Or.inr ⟨misfits, change fault, by rw [Node.mapFault, refused]; rfl, kept fault misshapen⟩

theorem within {step : Step} (arrives : Arrives shaped program value) :
    Arrives shaped (Source.within step program) value :=
  arrives.mapFault fun
    | _, .sequence => .sequence
    | _, .mapping => .mapping

theorem locating {node : Node} (arrives : Arrives shaped program value) :
    Arrives shaped (Source.locating node program) value :=
  arrives.mapFault fun
    | _, .sequence => .sequence
    | _, .mapping => .mapping

end Arrives

/-- Whatever a decoder returns for a JSON text, the other one arrives at for the nodes of that text. -/
def Agrees (role : Role) (decode : Json.Draft → Except Json.Fault α) (decodeNode : Node → Reading α) : Prop :=
  ∀ ⦃tree node⦄, Stands tree node → ∀ ⦃value⦄, decode tree.toDraft = .ok value →
    Arrives (tree.ByName role) (decodeNode node) value

/-- A container is refused for its shape. -/
def Misshapes (program : Reading α) : Prop :=
  ∀ anchors followed, ∃ fault, program anchors followed = .error fault ∧ IsMisshapen fault

theorem Misshapes.arrives {shaped : Prop} {program : Reading α} (misshapes : Misshapes program) (misfits : ¬ shaped)
    (value : α) : Arrives shaped program value :=
  fun anchors followed => Or.inr ⟨misfits, misshapes anchors followed⟩

theorem Misshapes.bind {program : Reading α} (misshapes : Misshapes program) (next : α → Reading β) :
    Misshapes (program >>= next) := by
  intro anchors followed
  obtain ⟨fault, refused, misshapen⟩ := misshapes anchors followed
  exact ⟨fault, by rw [Reading.bind_apply, refused]; rfl, misshapen⟩

/-- A draft stands for itself. -/
theorem of_resolve {draft : Json.Draft} {next : Json.Draft → Except Json.Fault α} {value : α}
    (read : (Source.resolve (m := Except Json.Fault) draft >>= next) = .ok value) : next draft = .ok value := read

private theorem text_eq_ok {tree : Json} {value : String}
    (read : Source.text (m := Except Json.Fault) tree.toDraft = .ok value) :
    tree = .string value := by
  cases tree with
  | string =>
    obtain rfl := Except.ok.inj read
    rfl
  | number =>
    obtain ⟨_, _, impossible⟩ := bind_eq_ok.mp read
    cases impossible
  | _ => cases read

theorem items_eq_ok {tree : Json} {drafts : List Json.Draft}
    (read : Source.items (m := Except Json.Fault) tree.toDraft = .ok drafts) :
    ∃ items, tree = .array items ∧ drafts = Json.toDraftItems items := by
  cases tree with
  | array items => exact ⟨items, rfl, (Except.ok.inj read).symm⟩
  | number =>
    obtain ⟨_, _, impossible⟩ := bind_eq_ok.mp read
    cases impossible
  | _ => cases read

theorem entries_eq_ok {tree : Json} {expected : String} {entries : List (Entry (Except Json.Fault) Json.Draft)}
    (read : Source.entries (m := Except Json.Fault) expected tree.toDraft = .ok entries) :
    ∃ members, tree = .object members ∧ entries = Json.Draft.entriesFrom 0 (Json.toDraftMembers members) := by
  cases tree with
  | object members => exact ⟨members, rfl, (Except.ok.inj read).symm⟩
  | number =>
    obtain ⟨_, _, impossible⟩ := bind_eq_ok.mp read
    cases impossible
  | _ => cases read

theorem record_eq_ok {tree : Json} {expected : String} {shape : Fields (Except Json.Fault) Json.Draft}
    (read : Source.record (m := Except Json.Fault) expected tree.toDraft = .ok shape) :
    (∃ members, tree = .object members ∧ shape = .named (Json.Draft.entriesFrom 0 (Json.toDraftMembers members))) ∨
      ∃ items, tree = .array items ∧ shape = .positional (Json.toDraftItems items) := by
  cases tree with
  | object members => exact Or.inl ⟨members, rfl, (Except.ok.inj read).symm⟩
  | array items => exact Or.inr ⟨items, rfl, (Except.ok.inj read).symm⟩
  | number =>
    obtain ⟨_, _, impossible⟩ := bind_eq_ok.mp read
    cases impossible
  | _ => cases read

theorem arrives_resolve {tree : Json} {node : Node} (stands : Stands tree node) :
    Arrives True (Source.resolve (m := Reading) node) node := by
  cases stands <;> exact .pure _

theorem absent_numeral (numeral : Numeral) :
    ((String.ofList numeral.text).isEmpty || Value.isNull (String.ofList numeral.text)) = false := by
  obtain ⟨some, noNull, _⟩ := Value.text_no_word numeral
  rw [some, noNull, Bool.or_false]

private theorem arrives_absent {tree : Json} {node : Node} (stands : Stands tree node) {missing : Bool}
    (found : Source.absent (m := Except Json.Fault) tree.toDraft = .ok missing) :
    Arrives True (Source.absent (m := Reading) node) missing := by
  cases stands with
  | null =>
    obtain rfl := Except.ok.inj found
    exact .pure true
  | @bool value =>
    obtain rfl := Except.ok.inj found
    cases value <;> exact .pure false
  | @number value =>
    obtain rfl := Except.ok.inj found
    exact absent_numeral value ▸ .pure _
  | string | array | object =>
    obtain rfl := Except.ok.inj found
    exact .pure false

private theorem eq_null_of_absent {tree : Json}
    (found : Source.absent (m := Except Json.Fault) tree.toDraft = .ok true) :
    tree = .null := by
  cases tree with
  | null => rfl
  | _ => cases found

private theorem firstFault_of_stands {tree : Json} {node : Node} (stands : Stands tree node) :
    node.firstFault = none := by
  refine Stands.induct (motive := fun _ node => node.firstFault = none) ?null ?bool ?number ?string ?array ?object
    stands
  case array =>
    intro items nodes position each
    rw [Node.firstFault]
    induction each with
    | nil => rfl
    | cons first _ ih => rw [Node.firstFaultOfItems, first, ih]; rfl
  case object =>
    intro members entries position each
    rw [Node.firstFault]
    induction each with
    | nil => rfl
    | cons first _ ih =>
      obtain ⟨first⟩ := first
      rw [Node.firstFaultOfEntries, first, ih]
      rfl
  all_goals
    intros
    rfl

namespace Agrees

variable {decode : Json.Draft → Except Json.Fault α} {decodeNode : Node → Reading α}

theorem other (agrees : Agrees role decode decodeNode)
    (shaped : ∀ ⦃tree : Json⦄ ⦃value⦄, decode tree.toDraft = .ok value → tree.ByName role) :
    Agrees .other decode decodeNode :=
  fun _ _ stands _ read => (agrees stands read).congr (iff_of_true (shaped read) .other)

theorem text : Agrees .other (Source.text (m := Except Json.Fault)) (Source.text (m := Reading)) := by
  intro tree node stands value read
  obtain rfl := text_eq_ok read
  cases stands with
  | string => exact (Arrives.pure value).congr (iff_of_true trivial .other)

theorem skip {tree : Json} {node : Node} (stands : Stands tree node) :
    Arrives True (Source.skip (m := Reading) node) () := by
  change Arrives True (Node.skip node) ()
  rw [Node.skip, firstFault_of_stands stands]
  exact .pure ()

theorem optional (agrees : Agrees role decode decodeNode) :
    Agrees role (Source.optional decode) (Source.optional decodeNode) := by
  intro tree node stands value read
  replace read := of_resolve read
  obtain ⟨missing, found, read⟩ := bind_eq_ok.mp read
  refine (arrives_resolve stands).bind_right ((arrives_absent stands found).bind_right ?_)
  cases missing with
  | true =>
    obtain rfl := Except.ok.inj read
    obtain rfl := eq_null_of_absent found
    exact (Arrives.pure none).congr (iff_of_true trivial .null)
  | false =>
    obtain ⟨given, decoded, same⟩ := bind_eq_ok.mp read
    obtain rfl := Except.ok.inj same
    exact (agrees stands decoded).bind_left (.pure _)

theorem items (agrees : Agrees role decode decodeNode) {items : List Json} {nodes : List Node}
    (stands : List.Forall₂ Stands items nodes) (index : Nat) {values : List α}
    (read : itemsFrom decode index (Json.toDraftItems items) = .ok values) :
    Arrives (∀ item ∈ items, item.ByName role) (itemsFrom decodeNode index nodes) values := by
  induction stands generalizing index values with
  | nil =>
    obtain rfl := Except.ok.inj read
    exact (Arrives.pure []).congr (iff_of_true trivial (List.forall_mem_nil _))
  | cons first _ ih =>
    obtain ⟨value, begun, read⟩ := bind_eq_ok.mp read
    obtain ⟨others, rest, same⟩ := bind_eq_ok.mp read
    obtain rfl := Except.ok.inj same
    refine Arrives.congr ?_ List.forall_mem_cons.symm
    exact (agrees first (mapError_eq_ok.mp begun)).within.bind ((ih (index + 1) rest).bind_left (.pure _))

theorem sequence (agrees : Agrees role decode decodeNode) :
    Agrees (.list role) (Source.sequence decode) (Source.sequence decodeNode) := by
  intro tree node stands values read
  replace read := of_resolve read
  obtain ⟨drafts, found, read⟩ := bind_eq_ok.mp read
  obtain ⟨items, rfl, rfl⟩ := items_eq_ok found
  refine (arrives_resolve stands).bind_right ?_
  cases stands with
  | array stands => exact ((Arrives.pure _).bind_right (agrees.items stands 0 read)).congr byName_list.symm

theorem texts : Agrees .other (Source.sequence (Source.text (m := Except Json.Fault)))
    (Source.sequence (Source.text (m := Reading))) := by
  refine text.sequence.other ?_
  intro tree values read
  replace read := of_resolve read
  obtain ⟨drafts, found, _⟩ := bind_eq_ok.mp read
  obtain ⟨items, rfl, rfl⟩ := items_eq_ok found
  exact .list fun item _ => .other

theorem entries (agrees : Agrees role decode decodeNode) {members : List (String × Json)}
    {entries : List (Node × Node)} (stands : List.Forall₂ (Labels Stands) members entries) (expected : String)
    (index : Nat) (before : List (String × α)) {table : List (String × α)}
    (read : tableFrom decode (Json.Draft.entriesFrom index (Json.toDraftMembers members)) before = .ok table) :
    Arrives (∀ member ∈ members, member.2.ByName role)
      (tableFrom decodeNode (Node.entriesFrom expected index entries) before) table := by
  induction stands generalizing index before with
  | nil =>
    obtain rfl := Except.ok.inj read
    exact (Arrives.pure _).congr (iff_of_true trivial (List.forall_mem_nil _))
  | cons first _ ih =>
    obtain ⟨first⟩ := first
    obtain ⟨key, named, read⟩ := bind_eq_ok.mp read
    obtain rfl := Except.ok.inj named
    obtain ⟨value, begun, read⟩ := bind_eq_ok.mp read
    refine Arrives.congr ?_ List.forall_mem_cons.symm
    refine (Arrives.pure _).bind_right ?_
    exact (agrees first (mapError_eq_ok.mp begun)).within.bind (ih (index + 1) _ read)

theorem table (agrees : Agrees role decode decodeNode) :
    Agrees (.map role) (Source.table decode) (Source.table decodeNode) := by
  intro tree node stands table read
  replace read := of_resolve read
  obtain ⟨entries, found, read⟩ := bind_eq_ok.mp read
  obtain ⟨members, rfl, rfl⟩ := entries_eq_ok found
  refine (arrives_resolve stands).bind_right (Arrives.locating ?_)
  cases stands with
  | object stands =>
    exact ((Arrives.pure _).bind_right (agrees.entries stands _ 0 [] read)).congr byName_map.symm

end Agrees

/-- Two lists of fields that take their values in the same way, under the names that belong to the roles. -/
inductive FieldsAgree : List (String × Role) → List (Field (Except Json.Fault) Json.Draft σ) →
    List (Field Reading Node σ) → Prop
  | nil : FieldsAgree [] [] []
  | put {β : Type} {name : String} {role : Role} {put : β → σ → σ} {decode : Json.Draft → Except Json.Fault β}
    {decodeNode : Node → Reading β} {names : List (String × Role)}
    {fields : List (Field (Except Json.Fault) Json.Draft σ)} {fieldsNode : List (Field Reading Node σ)}
    (agrees : Agrees role decode decodeNode) (others : FieldsAgree names fields fieldsNode) :
    FieldsAgree ((name, role) :: names) (⟨name, fun draft record => do return put (← decode draft) record⟩ :: fields)
      (⟨name, fun node record => do return put (← decodeNode node) record⟩ :: fieldsNode)

/-- What a key stands for: nothing, or a field on either side. -/
inductive Finds (key : String) (names : List (String × Role)) (fields : List (Field (Except Json.Fault) Json.Draft σ))
    (fieldsNode : List (Field Reading Node σ)) : Prop
  | nothing (name : names.lookup key = none) (field : fields.find? (·.name = key) = none)
    (fieldNode : fieldsNode.find? (·.name = key) = none)
  | field {role : Role} {field : Field (Except Json.Fault) Json.Draft σ} {fieldNode : Field Reading Node σ}
    (name : names.lookup key = some role) (found : fields.find? (·.name = key) = some field)
    (foundNode : fieldsNode.find? (·.name = key) = some fieldNode)
    (agrees : ∀ record, Agrees role (fun draft => field.read draft record) fun node => fieldNode.read node record)

theorem FieldsAgree.finds {names : List (String × Role)} {fields : List (Field (Except Json.Fault) Json.Draft σ)}
    {fieldsNode : List (Field Reading Node σ)} (agree : FieldsAgree names fields fieldsNode) (key : String) :
    Finds key names fields fieldsNode := by
  induction agree with
  | nil => exact .nothing rfl rfl rfl
  | @put _ name role put decode decodeNode _ _ _ agrees _ ih =>
    by_cases same : name = key
    · have takes (record : σ) : Agrees role (fun draft => do return put (← decode draft) record)
          fun node => do return put (← decodeNode node) record := by
        intro tree node stands changed read
        obtain ⟨value, decoded, same⟩ := bind_eq_ok.mp read
        obtain rfl := Except.ok.inj same
        exact (agrees stands decoded).bind_left (.pure _)
      refine .field ?_ (List.find?_cons_of_pos ?_) (List.find?_cons_of_pos ?_) takes
      · rw [same, List.lookup_cons_self]
      · exact decide_eq_true same
      · exact decide_eq_true same
    · have different : (key == name) = false := beq_false_of_ne (Ne.symm same)
      have differs : ¬ decide (name = key) = true := by rwa [decide_eq_true_eq]
      cases ih with
      | nothing absent field fieldNode =>
        refine .nothing ?_ ?_ ?_
        · rw [List.lookup_cons, different, absent]
        · rw [List.find?_cons_of_neg (by exact differs), field]
        · rw [List.find?_cons_of_neg (by exact differs), fieldNode]
      | field known found foundNode agrees =>
        refine .field ?_ ?_ ?_ agrees
        · rw [List.lookup_cons, different, known]
        · rw [List.find?_cons_of_neg (by exact differs), found]
        · rw [List.find?_cons_of_neg (by exact differs), foundNode]

/-- The members of an object have the right shape for the fields that they are the values of. -/
def FieldsByName (names : List (String × Role)) (members : List (String × Json)) : Prop :=
  ∀ member ∈ members, ∀ role, names.lookup member.1 = some role → member.2.ByName role

theorem FieldsAgree.readNamed {unknown : Unknown} {names : List (String × Role)}
    {fields : List (Field (Except Json.Fault) Json.Draft σ)} {fieldsNode : List (Field Reading Node σ)}
    (agree : FieldsAgree names fields fieldsNode) {members : List (String × Json)} {entries : List (Node × Node)}
    (stands : List.Forall₂ (Labels Stands) members entries) (expected : String) (index : Nat) (seen : List String)
    (record : σ) {result : σ × Source.Given}
    (read : Source.readNamed unknown fields index (Json.Draft.entriesFrom index (Json.toDraftMembers members)) seen
      record = .ok result) :
    Arrives (FieldsByName names members)
      (Source.readNamed unknown fieldsNode index (Node.entriesFrom expected index entries) seen record) result := by
  induction stands generalizing index seen record with
  | nil =>
    obtain rfl := Except.ok.inj read
    exact (Arrives.pure _).congr (iff_of_true trivial (List.forall_mem_nil _))
  | cons first _ ih =>
    obtain @⟨key, tree, _, _, first⟩ := first
    obtain ⟨_, named, read⟩ := bind_eq_ok.mp read
    obtain rfl := Except.ok.inj named
    refine Arrives.congr ?_ List.forall_mem_cons.symm
    refine (Arrives.pure key).bind_right ?_
    cases agree.finds key with
    | nothing absent field fieldNode =>
      have vacuous : ∀ role, names.lookup key = some role → tree.ByName role := by
        intro role known
        rw [absent] at known
        cases known
      rw [field] at read
      rw [fieldNode]
      cases unknown with
      | skipped =>
        obtain ⟨_, _, read⟩ := bind_eq_ok.mp read
        exact (((Agrees.skip first).bind_right (ih _ _ _ read))).congr (and_iff_right vacuous).symm
      | refused =>
        obtain ⟨_, impossible, _⟩ := bind_eq_ok.mp read
        cases impossible
    | @field role field fieldNode known found foundNode agrees =>
      have only : (∀ another, names.lookup key = some another → tree.ByName another) ↔ tree.ByName role := by
        rw [known]
        exact ⟨fun all => all role rfl, fun holds _ same => Option.some.inj same ▸ holds⟩
      rw [found] at read
      rw [foundNode]
      dsimp only at read ⊢
      split at read
      next => cases read
      next unseen =>
        obtain ⟨changed, taken, read⟩ := bind_eq_ok.mp read
        rw [if_neg unseen]
        refine Arrives.congr ?_ (and_congr_left' only.symm)
        exact (agrees record first (mapError_eq_ok.mp taken)).within.bind (ih _ _ _ read)

theorem Agrees.record (kind : Kind) {unknown : Unknown} {expected : String}
    {fields : List (Field (Except Json.Fault) Json.Draft σ)}
    {fieldsNode : List (Field Reading Node σ)} (agree : FieldsAgree kind.fields fields fieldsNode) {initial : σ}
    {finish : σ → Source.Given → Except Json.Fault α} {finishNode : σ → Source.Given → Reading α}
    (finishes : ∀ record given value, finish record given = .ok value → Arrives True (finishNode record given) value) :
    Agrees (.record kind) (fun draft => readRecordWith unknown expected fields initial draft finish)
      fun node => readRecordWith unknown expected fieldsNode initial node finishNode := by
  intro tree node stands value read
  replace read := of_resolve read
  obtain ⟨shape, found, read⟩ := bind_eq_ok.mp read
  refine (arrives_resolve stands).bind_right (Arrives.locating ?_)
  -- JSON also takes the items of an array for the fields, in their order
  rcases record_eq_ok found with ⟨members, rfl, rfl⟩ | ⟨items, rfl, _⟩
  · obtain ⟨⟨record, given⟩, taken, finished⟩ := bind_eq_ok.mp read
    cases stands with
    | object stands =>
      refine (Arrives.pure (Fields.named (Node.entriesFrom "field identifier" 0 _))).bind_right ?_
      have arrives := agree.readNamed stands "field identifier" 0 [] initial taken
      exact (arrives.bind_left (finishes record given value finished)).congr byName_record.symm
  · have misfits : ¬ Json.ByName (.record kind) (.array items) := fun byName => by cases byName
    cases stands with
    | array =>
      exact ((show Misshapes _ from fun anchors followed => ⟨_, rfl, .sequence⟩).bind _).arrives misfits value

theorem Agrees.defaulted (kind : Kind) {expected : String} {fields : List (Field (Except Json.Fault) Json.Draft σ)}
    {fieldsNode : List (Field Reading Node σ)} (agree : FieldsAgree kind.fields fields fieldsNode) {initial : σ} :
    Agrees (.record kind) (readDefaulted expected fields initial) (readDefaulted expected fieldsNode initial) := by
  have finishes (record : σ) (given : Source.Given) (value : σ)
      (same : (Pure.pure record : Except Json.Fault σ) = .ok value) : Arrives True (Pure.pure record) value := by
    obtain rfl := Except.ok.inj same
    exact .pure _
  have whole : Agrees (.record kind)
      (fun draft => readRecordWith .skipped expected fields initial draft fun record _ => Pure.pure record)
      fun node => readRecordWith .skipped expected fieldsNode initial node fun record _ => Pure.pure record :=
    .record kind agree finishes
  exact whole

theorem arrives_require {names : List String} {count : Nat} {expected : String} {given : Source.Given} {value : Unit}
    (required : require (m := Except Json.Fault) names count expected given = .ok value) :
    Arrives True (require (m := Reading) names count expected given) value := by
  cases given with
  | named seen =>
    unfold require at required ⊢
    dsimp only at required ⊢
    split at required
    next => cases required
    next => exact .pure ()
  | positional taken =>
    unfold require at required ⊢
    dsimp only at required ⊢
    split at required
    next => cases required
    next enough =>
      rw [if_neg enough]
      exact .pure ()

theorem Agrees.variant {choose : String → Except Json.Fault α} {chooseNode : String → Reading α}
    (chooses : ∀ name value, choose name = .ok value → Arrives True (chooseNode name) value) :
    Agrees .variant (Source.variant choose) (Source.variant chooseNode) := by
  intro tree node stands value read
  cases stands with
  | string =>
    have arrives := chooses _ _ read
    exact arrives.congr (iff_of_true trivial .variant)
  | object =>
    have misfits {members : List (String × Json)} : ¬ Json.ByName .variant (.object members) :=
      fun byName => by cases byName
    exact Misshapes.arrives (fun anchors followed => ⟨_, rfl, .mapping⟩) misfits value
  | _ => cases read

private theorem sorted_sorted {limit : Nat} {draft : Json.Draft} {tree : Json}
    (read : Json.Draft.tree limit draft = .ok tree) :
    tree.sorted.sorted = tree.sorted := (Json.Draft.stored_of_tree read).1.sorted_eq

theorem sortedMembers_map {members : List (String × Json)}
    (sorted : ∀ member ∈ members, member.2.sorted.sorted = member.2.sorted)
    (before : List (String × Json)) :
    Json.sortedMembers before (members.map fun member => (member.1, member.2.sorted)) =
      Json.sortedMembers before members := by
  induction members generalizing before with
  | nil => rfl
  | cons member members ih =>
    obtain ⟨first, sorted⟩ := List.forall_mem_cons.mp sorted
    rw [List.map_cons, Json.sortedMembers, Json.sortedMembers, first, ih sorted]

private theorem json_scalar (limit : Nat) (position : Position) (style : Style) (text : String) :
    Node.json limit (.scalar { position } style text) =
      Node.scalarJson position text (if style = .plain then Value.ofPlain text else .text) := by
  rw [Node.json]
  rfl

private theorem json_sequence (limit : Nat) (position : Position) (nodes : List Node) :
    Node.json (limit + 1) (.sequence { position } nodes) = (do
      let items ← nodes.zipIdx.mapM fun item => Node.mapFault (.under (.item item.2)) (Node.json limit item.1)
      return .array items) := by
  rw [Node.json]
  rfl

private theorem json_mapping (limit : Nat) (position : Position) (entries : List (Node × Node)) :
    Node.json (limit + 1) (.mapping { position } entries) = (do
      let members ← entries.zipIdx.mapM fun entry => do
        let name ← Node.textAs (if entry.2 = 0 then "a string key" else "a string") entry.1.1
        let value ← Node.mapFault (.under (.member entry.2 (Node.label? entry.1.1))) (Node.json limit entry.1.2)
        return (name, value)
      return .object (Json.sortedMembers [] members)) := by
  rw [Node.json]
  rfl

/-- What a tree is stored as, it is stored as from its node. -/
def Stores (tree : Json) (node : Node) : Prop :=
  ∀ ⦃limit more : Nat⦄, limit ≤ more → ∀ ⦃value : Json⦄, Json.Draft.tree limit tree.toDraft = .ok value →
    Arrives True (Node.json more node) value.sorted

theorem Arrives.under {shaped : Prop} {step : Step} {program : Reading α} {value : α}
    (arrives : Arrives shaped program value) : Arrives shaped (Node.mapFault (.under step) program) value :=
  arrives.within

private theorem stores_items {items : List Json} {nodes : List Node} (stores : List.Forall₂ Stores items nodes)
    {limit more : Nat}
    (enough : limit ≤ more) (index : Nat) {values : List Json}
    (read : ((Json.toDraftItems items).zipIdx index).mapM (fun item =>
      (Json.Draft.tree limit item.1).mapError (Json.Fault.under (.item item.2))) = .ok values) :
    Arrives True ((nodes.zipIdx index).mapM fun item => Node.mapFault (.under (.item item.2)) (Node.json more item.1))
      (values.map Json.sorted) := by
  induction stores generalizing index values with
  | nil =>
    obtain rfl := Except.ok.inj read
    exact .pure []
  | cons first _ ih =>
    rw [Json.toDraftItems, List.zipIdx_cons, List.mapM_cons] at read
    obtain ⟨value, begun, read⟩ := bind_eq_ok.mp read
    obtain ⟨others, rest, same⟩ := bind_eq_ok.mp read
    obtain rfl := Except.ok.inj same
    rw [List.zipIdx_cons, List.mapM_cons]
    exact (first enough (mapError_eq_ok.mp begun)).under.bind_right ((ih (index + 1) rest).bind_right (.pure _))

private theorem stores_members {members : List (String × Json)} {entries : List (Node × Node)}
    (stores : List.Forall₂ (Labels Stores) members entries) {limit more : Nat} (enough : limit ≤ more) (index : Nat)
    {values : List (String × Json)}
    (read : ((Json.toDraftMembers members).zipIdx index).mapM (fun member => do
      let key ← Json.Draft.ofText? member.1.1
      let value ← (Json.Draft.tree limit member.1.2).mapError (Json.Fault.under (.member member.2 (some key)))
      return (key, value)) = .ok values) :
    Arrives True ((entries.zipIdx index).mapM fun entry => do
      let name ← Node.textAs (if entry.2 = 0 then "a string key" else "a string") entry.1.1
      let value ← Node.mapFault (.under (.member entry.2 (Node.label? entry.1.1))) (Node.json more entry.1.2)
      return (name, value)) (values.map fun member => (member.1, member.2.sorted)) ∧
      ∀ member ∈ values, member.2.sorted.sorted = member.2.sorted := by
  induction stores generalizing index values with
  | nil =>
    obtain rfl := Except.ok.inj read
    exact ⟨.pure [], List.forall_mem_nil _⟩
  | cons first _ ih =>
    obtain ⟨first⟩ := first
    rw [Json.toDraftMembers, List.zipIdx_cons, List.mapM_cons] at read
    obtain ⟨member, begun, read⟩ := bind_eq_ok.mp read
    obtain ⟨others, rest, same⟩ := bind_eq_ok.mp read
    obtain rfl := Except.ok.inj same
    obtain ⟨key, named, begun⟩ := bind_eq_ok.mp begun
    obtain rfl := Except.ok.inj named
    obtain ⟨value, taken, same⟩ := bind_eq_ok.mp begun
    obtain rfl := Except.ok.inj same
    have taken := mapError_eq_ok.mp taken
    obtain ⟨arrives, sorted⟩ := ih (index + 1) rest
    rw [List.zipIdx_cons, List.mapM_cons]
    refine ⟨Arrives.bind_right ?_ (arrives.bind_right (.pure _)), ?_⟩
    · exact (Arrives.pure _).bind_right ((first enough taken).under.bind_right (.pure _))
    · exact List.forall_mem_cons.mpr ⟨sorted_sorted taken, sorted⟩

private theorem stores_of_stands {tree : Json} {node : Node} (stands : Stands tree node) : Stores tree node := by
  refine Stands.induct ?null ?bool ?number ?string ?array ?object stands
  case null =>
    intro position limit more _ value read
    rw [json_scalar]
    cases limit <;> obtain rfl := Except.ok.inj read <;> exact .pure Json.null
  case bool =>
    intro truth position limit more _ value read
    rw [json_scalar]
    cases limit <;> obtain rfl := Except.ok.inj read <;> cases truth <;> exact .pure (Json.bool _)
  case number =>
    intro numeral position portable limit more _ value read
    rw [Json.toDraft, Json.Draft.tree] at read
    split at read
    next => cases read
    next stored canonical =>
      obtain rfl := Except.ok.inj read
      rw [json_scalar, if_pos rfl, portable stored canonical position]
      exact .pure (Json.number stored)
  case string =>
    intro text position limit more _ value read
    rw [json_scalar]
    cases limit <;> obtain rfl := Except.ok.inj read <;> exact .pure (Json.string _)
  case array =>
    intro items nodes position stores limit more enough value read
    cases limit with
    | zero => cases read
    | succ limit =>
      obtain ⟨more, rfl⟩ := Nat.exists_eq_add_one_of_ne_zero (Nat.ne_of_gt (Nat.lt_of_lt_of_le (Nat.succ_pos _) enough))
      obtain ⟨values, mapped, same⟩ := bind_eq_ok.mp read
      obtain rfl := Except.ok.inj same
      rw [json_sequence, Json.sorted, Json.sortedItems_eq_map]
      exact (stores_items stores (Nat.le_of_succ_le_succ enough) 0 mapped).bind_right (.pure _)
  case object =>
    intro members entries position stores limit more enough value read
    cases limit with
    | zero => cases read
    | succ limit =>
      obtain ⟨more, rfl⟩ := Nat.exists_eq_add_one_of_ne_zero (Nat.ne_of_gt (Nat.lt_of_lt_of_le (Nat.succ_pos _) enough))
      obtain ⟨values, mapped, same⟩ := bind_eq_ok.mp read
      obtain rfl := Except.ok.inj same
      obtain ⟨arrives, sorted⟩ := stores_members stores (Nat.le_of_succ_le_succ enough) 0 mapped
      rw [json_mapping, Json.sorted, ← sortedMembers_map sorted]
      exact arrives.bind_right (.pure _)

theorem Agrees.json {limit more : Nat} (enough : limit ≤ more) :
    Agrees .other (Source.json (m := Except Json.Fault) limit) (Source.json (m := Reading) more) := by
  intro tree node stands value read
  obtain ⟨whole, read, same⟩ := map_eq_ok.mp read
  have arrives := stores_of_stands stands enough read
  rw [same] at arrives
  exact arrives.congr (iff_of_true trivial .other)

end Yaml

end ApiStyle
