import ApiStyle.Proofs.FlowTrees
import ApiStyle.Yaml.Node
import Mathlib.Data.List.TakeWhile

/-! Portable JSON text as a YAML tree. -/

namespace ApiStyle.Yaml

open Json (Portable Listed Keyed)

/-- An entry of a mapping with a member's key and value. -/
inductive Labels (stands : Json → Node → Prop) : String × Json → Node × Node → Prop
  | mk {key value position node} : stands value node →
      Labels stands (key, value) (.scalar { position } .quoted key, node)

/-- A node with the content of a tree, wherever it was read. -/
inductive Stands : Json → Node → Prop
  | null {position} : Stands .null (.scalar { position } .plain "null")
  | bool {value position} : Stands (.bool value) (.scalar { position } .plain (String.ofList (Json.boolText value)))
  | number {value position} : value.IsPortable →
      Stands (.number value) (.scalar { position } .plain (String.ofList value.text))
  | string {value position} : Stands (.string value) (.scalar { position } .quoted value)
  | array {items nodes position} : List.Forall₂ Stands items nodes →
      Stands (.array items) (.sequence { position } nodes)
  | object {members entries position} : List.Forall₂ (Labels Stands) members entries →
      Stands (.object members) (.mapping { position } entries)

/-- What holds of the parts of a container holds of it. -/
theorem Stands.induct {motive : Json → Node → Prop}
    (null : ∀ position, motive .null (.scalar { position } .plain "null"))
    (bool : ∀ value position, motive (.bool value) (.scalar { position } .plain (String.ofList (Json.boolText value))))
    (number : ∀ (value : Numeral) (position : Position), value.IsPortable →
      motive (.number value) (.scalar { position } .plain (String.ofList value.text)))
    (string : ∀ value position, motive (.string value) (.scalar { position } .quoted value))
    (array : ∀ items nodes position, List.Forall₂ motive items nodes →
      motive (.array items) (.sequence { position } nodes))
    (object : ∀ members entries position, List.Forall₂ (Labels motive) members entries →
      motive (.object members) (.mapping { position } entries))
    {tree : Json} {node : Node} (stands : Stands tree node) : motive tree node :=
  @Stands.rec (fun tree node _ => motive tree node) (fun items nodes _ => List.Forall₂ motive items nodes)
    (fun members entries _ => List.Forall₂ (Labels motive) members entries)
    (fun member entry _ => Labels motive member entry)
    (null _) (bool _ _) (number _ _) (string _ _) (fun _ => array _ _ _) (fun _ => object _ _ _) .nil
    (fun _ _ first rest => .cons first rest) .nil (fun _ _ first rest => .cons first rest) (fun _ holds => .mk holds)
    tree node stands

/-- A token that a value starts with. -/
def startsValue : Token → Bool
  | .scalar _ _ => true
  | .flowSequence => true
  | .flowMapping => true
  | _ => false

theorem exists_first (tree : Json) : ∃ token tokens, tree.tokens = token :: tokens ∧ startsValue token = true := by
  cases tree <;> exact ⟨_, _, rfl, rfl⟩

namespace Reader

variable {reader : Reader} {token : Token} {tokens : List Token}

theorem peek_of_yields (yields : reader.lexer.Yields (token :: tokens)) :
    ∃ placed next, reader.peek = .ok (placed, next) ∧ placed.token = token ∧
      next.lexer.Yields (token :: tokens) ∧ next.drop.lexer.Yields tokens := by
  obtain ⟨placed, lexer, run, same, still, after⟩ := Lexer.peek_of_yields yields
  exact ⟨placed, { reader with lexer }, by rw [peek, run]; rfl, same, still, after⟩

theorem readProperties_of_value (starts : startsValue token = true) (yields : reader.lexer.Yields (token :: tokens)) :
    ∃ placed next, reader.readProperties = .ok (⟨placed.start, none, none⟩, placed, next) ∧ placed.token = token ∧
      next.drop.lexer.Yields tokens := by
  obtain ⟨placed, next, run, rfl, _, after⟩ := peek_of_yields yields
  refine ⟨placed, next, ?_, rfl, after⟩
  rw [readProperties, run]
  simp only [bind, Except.bind]
  split
  next same => simp [same, startsValue] at starts
  next same => simp [same, startsValue] at starts
  next => rfl

variable {fuel : Nat} {block unindented : Bool}

theorem readNode_scalar {style : Style} {text : String} (yields : reader.lexer.Yields (.scalar style text :: tokens)) :
    ∃ position next, reader.readNode (fuel + 1) block unindented = (.scalar { position } style text, some next) ∧
      next.lexer.Yields tokens := by
  obtain ⟨placed, next, run, same, after⟩ := readProperties_of_value rfl yields
  refine ⟨placed.start, next.drop, ?_, after⟩
  simp [readNode, run, same, head]

private theorem readNode_sequence (yields : reader.lexer.Yields (.flowSequence :: tokens)) :
    ∃ (position : Position) (next : Reader), next.lexer.Yields tokens ∧ reader.readNode (fuel + 1) block unindented =
      (.sequence { position } (next.readFlowItems fuel position true).1,
        (next.readFlowItems fuel position true).2) := by
  obtain ⟨placed, next, run, same, after⟩ := readProperties_of_value rfl yields
  refine ⟨placed.start, next.drop, after, ?_⟩
  simp [readNode, run, same, head]

private theorem readNode_mapping (yields : reader.lexer.Yields (.flowMapping :: tokens)) :
    ∃ (position : Position) (next : Reader), next.lexer.Yields tokens ∧ reader.readNode (fuel + 1) block unindented =
      (.mapping { position } (next.readFlowMembers fuel position true).1,
        (next.readFlowMembers fuel position true).2) := by
  obtain ⟨placed, next, run, same, after⟩ := readProperties_of_value rfl yields
  refine ⟨placed.start, next.drop, after, ?_⟩
  simp [readNode, run, same, head]

variable {start : Position} {first : Bool}

private theorem readFlowItems_end (yields : reader.lexer.Yields (.flowSequenceEnd :: tokens)) :
    ∃ next, reader.readFlowItems (fuel + 1) start first = ([], some next) ∧ next.lexer.Yields tokens := by
  obtain ⟨placed, next, run, same, _, after⟩ := peek_of_yields yields
  exact ⟨next.drop, by simp [readFlowItems, run, same], after⟩

private theorem readFlowItems_item (starts : startsValue token = true)
    (yields : reader.lexer.Yields (Json.separator first ++ token :: tokens)) :
    ∃ (next : Reader), next.lexer.Yields (token :: tokens) ∧ ∀ {item after items rest},
      next.readNode fuel false false = (item, some after) → after.readFlowItems fuel start false = (items, rest) →
        reader.readFlowItems (fuel + 1) start first = (item :: items, rest) := by
  cases first with
  | true =>
    obtain ⟨placed, next, run, same, still, _⟩ := peek_of_yields yields
    refine ⟨next, still, fun {item after items rest} read others => ?_⟩
    cases token <;> cases starts <;> simp [readFlowItems, run, same, read, others]
  | false =>
    obtain ⟨comma, behind, runComma, sameComma, _, yields⟩ := peek_of_yields yields
    obtain ⟨placed, next, run, same, still, _⟩ := peek_of_yields yields
    refine ⟨next, still, fun {item after items rest} read others => ?_⟩
    cases token <;> cases starts <;> simp [readFlowItems, runComma, sameComma, run, same, read, others]

private theorem readFlowMembers_end (yields : reader.lexer.Yields (.flowMappingEnd :: tokens)) :
    ∃ next, reader.readFlowMembers (fuel + 1) start first = ([], some next) ∧ next.lexer.Yields tokens := by
  obtain ⟨placed, next, run, same, _, after⟩ := peek_of_yields yields
  exact ⟨next.drop, by simp [readFlowMembers, run, same], after⟩

private theorem readFlowValue_of_value (fuel : Nat) (starts : startsValue token = true)
    (yields : reader.lexer.Yields (.value :: token :: tokens)) :
    ∃ (next : Reader), next.lexer.Yields (token :: tokens) ∧
      reader.readFlowValue (fuel + 1) endsFlowMember = next.readNode fuel false false := by
  obtain ⟨colon, behind, runColon, sameColon, _, yields⟩ := peek_of_yields yields
  obtain ⟨placed, next, run, same, still, _⟩ := peek_of_yields yields
  refine ⟨next, still, ?_⟩
  cases token <;> cases starts <;> simp [readFlowValue, runColon, sameColon, run, same, endsFlowMember]

private theorem readFlowMember_of_key {key : String} (fuel : Nat) (starts : startsValue token = true)
    (yields : reader.drop.lexer.Yields (.scalar .quoted key :: .value :: token :: tokens)) :
    ∃ (position : Position) (next : Reader), next.lexer.Yields (token :: tokens) ∧ ∀ {value after},
      next.readNode fuel false false = (value, some after) →
        reader.readFlowMember (fuel + 2) true = (.scalar { position } .quoted key, value, some after) := by
  obtain ⟨placed, named, run, same, still, _⟩ := peek_of_yields yields
  obtain ⟨position, behind, readKey, yields⟩ : ∃ position behind,
      named.readNode (fuel + 1) false false = (.scalar { position } .quoted key, some behind) ∧
        behind.lexer.Yields (.value :: token :: tokens) := readNode_scalar still
  obtain ⟨next, yields, readValue⟩ := readFlowValue_of_value fuel starts yields
  refine ⟨position, next, yields, fun {value after} read => ?_⟩
  simp [readFlowMember, run, same, endsFlowMember, readKey, readValue, read]

private theorem readFlowMembers_member {key : String} (fuel : Nat) (starts : startsValue token = true)
    (yields : reader.lexer.Yields (Json.separator first ++ .key :: .scalar .quoted key :: .value :: token :: tokens)) :
    ∃ (position : Position) (next : Reader), next.lexer.Yields (token :: tokens) ∧ ∀ {value after entries rest},
      next.readNode fuel false false = (value, some after) →
        after.readFlowMembers (fuel + 2) start false = (entries, rest) →
          reader.readFlowMembers (fuel + 3) start first =
            ((.scalar { position } .quoted key, value) :: entries, rest) := by
  cases first with
  | true =>
    obtain ⟨placed, behind, run, same, _, yields⟩ := peek_of_yields yields
    obtain ⟨position, next, yields, member⟩ := readFlowMember_of_key fuel starts yields
    refine ⟨position, next, yields, fun {value after entries rest} read others => ?_⟩
    rw [readFlowMembers]
    simp [run, same, member read, others]
  | false =>
    obtain ⟨comma, before, runComma, sameComma, _, yields⟩ := peek_of_yields yields
    obtain ⟨placed, behind, run, same, _, yields⟩ := peek_of_yields yields
    obtain ⟨position, next, yields, member⟩ := readFlowMember_of_key fuel starts yields
    refine ⟨position, next, yields, fun {value after entries rest} read others => ?_⟩
    rw [readFlowMembers]
    simp [runComma, sameComma, run, same, member read, others]

/-- Whatever follows, the tokens of a tree are read as a node with its content. -/
def Builds (tree : Json) : Prop :=
  ∀ ⦃reader : Reader⦄ ⦃fuel : Nat⦄ ⦃block unindented : Bool⦄ ⦃rest : List Token⦄, tree.tokens.length ≤ fuel →
    reader.lexer.Yields (tree.tokens ++ rest) → ∃ node next,
      reader.readNode fuel block unindented = (node, some next) ∧ next.lexer.Yields rest ∧ Stands tree node

private theorem readFlowItems_of_builds {items : List Json} (builds : ∀ item ∈ items, Builds item) {rest : List Token}
    (enough : (Json.itemTokens first items).length < fuel)
    (yields : reader.lexer.Yields (Json.itemTokens first items ++ .flowSequenceEnd :: rest)) :
    ∃ nodes next, reader.readFlowItems fuel start first = (nodes, some next) ∧ next.lexer.Yields rest ∧
      List.Forall₂ Stands items nodes := by
  induction items generalizing reader fuel first with
  | nil =>
    obtain ⟨fuel, rfl⟩ := Nat.exists_eq_add_one_of_ne_zero (Nat.ne_of_gt enough)
    obtain ⟨next, read, yields⟩ := readFlowItems_end yields
    exact ⟨[], next, read, yields, .nil⟩
  | cons item items ih =>
    obtain ⟨builds, others⟩ := List.forall_mem_cons.mp builds
    obtain ⟨token, tokens, parts, starts⟩ := exists_first item
    obtain ⟨fuel, rfl⟩ := Nat.exists_eq_add_one_of_ne_zero (Nat.ne_of_gt (Nat.zero_lt_of_lt enough))
    have length : item.tokens.length = tokens.length + 1 := by rw [parts, List.length_cons]
    simp only [Json.itemTokens, List.length_append] at enough
    have yields : reader.lexer.Yields (Json.separator first ++
        token :: (tokens ++ (Json.itemTokens false items ++ .flowSequenceEnd :: rest))) := by
      simpa [Json.itemTokens, parts] using yields
    obtain ⟨next, yields, step⟩ := readFlowItems_item starts yields
    obtain ⟨node, after, read, yields, stands⟩ := builds (show item.tokens.length ≤ fuel by omega)
      (show next.lexer.Yields (item.tokens ++ _) by rw [parts]; exact yields)
    obtain ⟨nodes, last, readOthers, yields, standing⟩ := ih others (show _ < fuel by omega) yields
    exact ⟨node :: nodes, last, step read readOthers, yields, .cons stands standing⟩

private theorem readFlowMembers_of_builds {members : List (String × Json)}
    (builds : ∀ member ∈ members, Builds member.2)
    {rest : List Token} (enough : (Json.memberTokens first members).length < fuel)
    (yields : reader.lexer.Yields (Json.memberTokens first members ++ .flowMappingEnd :: rest)) :
    ∃ entries next, reader.readFlowMembers fuel start first = (entries, some next) ∧ next.lexer.Yields rest ∧
      List.Forall₂ (Labels Stands) members entries := by
  induction members generalizing reader fuel first with
  | nil =>
    obtain ⟨fuel, rfl⟩ := Nat.exists_eq_add_one_of_ne_zero (Nat.ne_of_gt enough)
    obtain ⟨next, read, yields⟩ := readFlowMembers_end yields
    exact ⟨[], next, read, yields, .nil⟩
  | cons member members ih =>
    obtain ⟨key, value⟩ := member
    obtain ⟨builds, others⟩ := List.forall_mem_cons.mp builds
    obtain ⟨token, tokens, parts, starts⟩ := exists_first value
    have length : value.tokens.length = tokens.length + 1 := by rw [parts, List.length_cons]
    simp only [Json.memberTokens, List.length_append, List.length_cons] at enough
    obtain ⟨fuel, rfl⟩ := Nat.exists_eq_add_of_le' (show 3 ≤ fuel by omega)
    have yields : reader.lexer.Yields (Json.separator first ++ .key :: .scalar .quoted key :: .value ::
        token :: (tokens ++ (Json.memberTokens false members ++ .flowMappingEnd :: rest))) := by
      simpa [Json.memberTokens, parts] using yields
    obtain ⟨position, next, yields, step⟩ := readFlowMembers_member fuel starts yields
    obtain ⟨node, after, read, yields, stands⟩ := builds (show value.tokens.length ≤ fuel by omega)
      (show next.lexer.Yields (value.tokens ++ _) by rw [parts]; exact yields)
    obtain ⟨entries, last, readOthers, yields, standing⟩ := ih others (show _ < fuel + 2 by omega) yields
    exact ⟨_ :: entries, last, step read readOthers, yields, .cons (.mk stands) standing⟩

private theorem builds_scalar {tree : Json} {style : Style} {text : String}
    (tokens : tree.tokens = [.scalar style text])
    (stands : ∀ position, Stands tree (.scalar { position } style text)) : Builds tree := by
  intro reader fuel block unindented rest enough yields
  rw [tokens] at enough yields
  obtain ⟨fuel, rfl⟩ := Nat.exists_eq_add_one_of_ne_zero (Nat.ne_of_gt enough)
  obtain ⟨position, next, read, yields⟩ := readNode_scalar yields
  exact ⟨_, next, read, yields, stands position⟩

private theorem builds_array {items : List Json} (builds : ∀ item ∈ items, Builds item) : Builds (.array items) := by
  intro reader fuel block unindented rest enough yields
  simp only [Json.tokens, List.length_append, List.length_cons] at enough
  obtain ⟨fuel, rfl⟩ := Nat.exists_eq_add_one_of_ne_zero (show fuel ≠ 0 by omega)
  have yields : reader.lexer.Yields (.flowSequence :: (Json.itemTokens true items ++ .flowSequenceEnd :: rest)) := by
    simpa [Json.tokens] using yields
  obtain ⟨position, next, yields, read⟩ := readNode_sequence yields
  obtain ⟨nodes, last, readItems, yields, stands⟩ := readFlowItems_of_builds builds
    (show (Json.itemTokens true items).length < fuel by omega) yields
  exact ⟨.sequence { position } nodes, last, by rw [read, readItems], yields, .array stands⟩

private theorem builds_object {members : List (String × Json)} (builds : ∀ member ∈ members, Builds member.2) :
    Builds (.object members) := by
  intro reader fuel block unindented rest enough yields
  simp only [Json.tokens, List.length_append, List.length_cons] at enough
  obtain ⟨fuel, rfl⟩ := Nat.exists_eq_add_one_of_ne_zero (show fuel ≠ 0 by omega)
  have yields : reader.lexer.Yields (.flowMapping :: (Json.memberTokens true members ++ .flowMappingEnd :: rest)) := by
    simpa [Json.tokens] using yields
  obtain ⟨position, next, yields, read⟩ := readNode_mapping yields
  obtain ⟨entries, last, readMembers, yields, stands⟩ := readFlowMembers_of_builds builds
    (show (Json.memberTokens true members).length < fuel by omega) yields
  exact ⟨.mapping { position } entries, last, by rw [read, readMembers], yields, .object stands⟩

private theorem builds_portable {tree : Json} {text : List Char} (portable : Portable tree text) : Builds tree := by
  refine Portable.induct (motive := fun tree _ => Builds tree) ?null ?bool ?number ?string ?noItems ?items ?noMembers
    ?members portable
  case null => exact builds_scalar rfl fun _ => .null
  case bool => exact fun _ => builds_scalar rfl fun _ => .bool
  case number => exact fun _ portable => builds_scalar rfl fun _ => .number portable
  case string => exact fun _ _ _ _ => builds_scalar rfl fun _ => .string
  case noItems => exact fun _ _ => builds_array (List.forall_mem_nil _)
  case items => exact fun _ _ _ _ listed => builds_array fun _ member =>
    (listed.exists_text member).elim fun _ builds => builds
  case noMembers => exact fun _ _ => builds_object (List.forall_mem_nil _)
  case members =>
    intro members gap text _ listed
    refine builds_object fun member inside => ?_
    obtain ⟨_, _, _, _, _, _, builds⟩ := listed.exists_text inside
    exact builds

end Reader

private theorem forbidden?_of_allowed {text : List Char} (allowed : Json.Allowed text) :
    Contents.forbidden? text = none := by
  rw [Contents.forbidden?, List.dropWhile_eq_nil_iff.mpr allowed]

theorem not_mark_of_startsValue {token : Token} (starts : startsValue token = true) :
    token ≠ .streamEnd ∧ token ≠ .documentStart ∧ Contents.isDirective token = false := by
  unfold startsValue at starts
  split at starts
  case h_4 => cases starts
  all_goals exact ⟨nofun, nofun, rfl⟩

theorem readStart_of_value {fuel : Nat} {reader next : Reader} {placed : Placed}
    (run : reader.peek = .ok (placed, next)) (starts : startsValue placed.token = true) :
    Contents.readStart fuel reader = .ok (some (false, { next with handles := Reader.standardHandles })) := by
  obtain ⟨goesOn, unmarked, plain⟩ := not_mark_of_startsValue starts
  refine bind_eq_ok.mpr ⟨(placed, next), run, ?_⟩
  simp only [if_neg goesOn]
  exact if_pos ⟨unmarked, by rw [plain]; rfl⟩

/-- The only document of a text is the node of its tree. -/
theorem Contents.ofText_portable {tree : Json} {text gap blanks : List Char} (portable : Portable tree text)
    (container : tree.isContainer = true) (blank : Json.Blank gap) (tabs : '\t' ∉ gap) (blanksToo : Json.Blank blanks)
    (tabsToo : '\t' ∉ blanks) :
    ∃ node, Contents.ofText (gap ++ (text ++ blanks)) = { root := node } ∧ Stands tree node := by
  have allowed : Json.Allowed (gap ++ (text ++ blanks)) :=
    .append (.blank blank) (.append portable.allowed (.blank blanksToo))
  have enough : tree.tokens.length ≤ 8 * (gap ++ (text ++ blanks)).length + 64 := by
    have := portable.length_tokens
    simp only [List.length_append]
    omega
  have yields := Lexer.yields_portable portable container blank tabs blanksToo tabsToo
  generalize gap ++ (text ++ blanks) = whole at *
  obtain ⟨token, tokens, parts, starts⟩ := exists_first tree
  rw [parts] at yields
  obtain ⟨placed, reader, run, rfl, yields, _⟩ := Reader.peek_of_yields
    (show ({ lexer := Lexer.ofText whole } : Reader).lexer.Yields (token :: (tokens ++ [.streamEnd])) from yields)
  let known : Reader := { reader with handles := Reader.standardHandles }
  have start : Contents.readStart (8 * whole.length + 64) { lexer := Lexer.ofText whole } =
      .ok (some (false, known)) := readStart_of_value run starts
  obtain ⟨first, again, runAgain, _, yields, _⟩ := Reader.peek_of_yields (show known.lexer.Yields _ from yields)
  have builds := Reader.builds_portable portable
  obtain ⟨node, next, read, yields, stands⟩ : ∃ node next,
      again.readNode (8 * whole.length + 64) true false = (node, some next) ∧ next.lexer.Yields [.streamEnd] ∧
        Stands tree node := builds enough (by rw [parts]; exact yields)
  obtain ⟨last, final, runLast, sameLast, yields, _⟩ := Reader.peek_of_yields yields
  obtain ⟨_, _, runFinal, sameFinal, _⟩ := Reader.peek_of_yields yields
  refine ⟨node, ?_, stands⟩
  rw [Contents.ofText, forbidden?_of_allowed allowed]
  simp only [start]
  rw [Contents.readContent, runAgain]
  simp [read, Contents.readEnd, runLast, sameLast, Contents.goesOn, runFinal, sameFinal]

end ApiStyle.Yaml
