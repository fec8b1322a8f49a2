import ApiStyle.Document.Encode

/-! How deep containers nest in a tree and in the JSON form of a document. All parts of a document but its schemas
nest to a fixed depth, so only schemas can make it too deep to be read. -/

namespace ApiStyle

namespace Json

mutual

/-- How many containers nest in each other. -/
def depth : Json → Nat
  | .array items => depthOfItems items + 1
  | .object members => depthOfMembers members + 1
  | _ => 0

def depthOfItems : List Json → Nat
  | [] => 0
  | item :: items => max (depth item) (depthOfItems items)

def depthOfMembers : List (String × Json) → Nat
  | [] => 0
  | (_, value) :: members => max (depth value) (depthOfMembers members)

end

@[simp] theorem depth_array_le {items : List Json} {bound : Nat} :
    (Json.array items).depth ≤ bound + 1 ↔ ∀ item ∈ items, item.depth ≤ bound := by
  have items_le : depthOfItems items ≤ bound ↔ ∀ item ∈ items, item.depth ≤ bound := by
    induction items with
    | nil => simp [depthOfItems]
    | cons item items ih => rw [depthOfItems, Nat.max_le, ih, List.forall_mem_cons]
  rw [depth, Nat.add_le_add_iff_right, items_le]

@[simp] theorem depth_object_le {members : List (String × Json)} {bound : Nat} :
    (Json.object members).depth ≤ bound + 1 ↔ ∀ member ∈ members, member.2.depth ≤ bound := by
  have members_le : depthOfMembers members ≤ bound ↔ ∀ member ∈ members, member.2.depth ≤ bound := by
    induction members with
    | nil => simp [depthOfMembers]
    | cons member members ih => rw [depthOfMembers, Nat.max_le, ih, List.forall_mem_cons]
  rw [depth, Nat.add_le_add_iff_right, members_le]

theorem depth_record_le {members : List (String × Option Json)} {bound : Nat} :
    (Json.record members).depth ≤ bound + 1 ↔
      ∀ member ∈ members, ∀ value, member.2 = some value → value.depth ≤ bound := by
  rw [Json.record, depth_object_le]
  constructor
  · rintro each ⟨key, _⟩ member value rfl
    exact each (key, value) (List.mem_filterMap.mpr ⟨(key, some value), member, rfl⟩)
  · intro each member present
    obtain ⟨⟨key, value⟩, listed, found⟩ := List.mem_filterMap.mp present
    obtain ⟨value, rfl, rfl⟩ := Option.map_eq_some_iff.mp found
    exact each (key, some value) listed value rfl

theorem depth_strings_le (items : List String) : (Json.strings items).depth ≤ 1 :=
  depth_array_le.mpr (List.forall_mem_map.mpr fun _ _ => Nat.zero_le 0)

theorem depth_map_le {encode : α → Json} {bound : Nat} (each : ∀ value, (encode value).depth ≤ bound)
    (value : Option α) : ∀ tree, value.map encode = some tree → tree.depth ≤ bound := by
  intro tree same
  obtain ⟨given, _, rfl⟩ := Option.map_eq_some_iff.mp same
  exact each given

end Json

open Json

theorem depth_optionalText_le (text : Option String) (bound : Nat) :
    ∀ value, optionalText text = some value → value.depth ≤ bound := by
  intro value same
  obtain ⟨text, _, rfl⟩ := Option.map_eq_some_iff.mp same
  exact Nat.zero_le bound

private theorem License.depth_toJson_le (license : License) : license.toJson.depth ≤ 1 := by
  refine depth_record_le.mpr ?_
  simp only [List.forall_mem_cons]
  exact ⟨depth_optionalText_le _ _, depth_optionalText_le _ _, List.forall_mem_nil _⟩

private theorem Contact.depth_toJson_le (contact : Contact) : contact.toJson.depth ≤ 1 := by
  refine depth_record_le.mpr ?_
  simp only [List.forall_mem_cons]
  exact ⟨depth_optionalText_le _ _, depth_optionalText_le _ _, depth_optionalText_le _ _, List.forall_mem_nil _⟩

private theorem Info.depth_toJson_le (info : Info) : info.toJson.depth ≤ 2 := by
  refine depth_record_le.mpr ?_
  simp only [List.forall_mem_cons]
  refine ⟨depth_optionalText_le _ _, depth_optionalText_le _ _, depth_optionalText_le _ _, ?_, ?_,
    List.forall_mem_nil _⟩
  · exact depth_map_le License.depth_toJson_le info.license
  · exact depth_map_le Contact.depth_toJson_le info.contact

private theorem ServerVariable.depth_toJson_le (declared : ServerVariable) : declared.toJson.depth ≤ 2 := by
  refine depth_record_le.mpr ?_
  simp only [List.forall_mem_cons]
  refine ⟨?_, fun tree same => ?_, depth_optionalText_le _ _, List.forall_mem_nil _⟩
  · rintro _ ⟨⟩
    exact Nat.zero_le 1
  · unfold nonEmptyStrings at same
    split at same
    · cases same
    · obtain rfl := Option.some.inj same
      exact depth_strings_le declared.choices

private theorem Server.depth_toJson_le (server : Server) : server.toJson.depth ≤ 4 := by
  refine depth_record_le.mpr ?_
  simp only [List.forall_mem_cons]
  refine ⟨?_, depth_optionalText_le _ _, ?_, List.forall_mem_nil _⟩
  · rintro _ ⟨⟩
    exact Nat.zero_le 3
  · rintro _ ⟨⟩
    exact depth_object_le.mpr (List.forall_mem_map.mpr fun binding _ => binding.2.depth_toJson_le)

private theorem Parameter.depth_toJson_le (parameter : Parameter) : parameter.toJson.depth ≤ 1 := by
  refine depth_record_le.mpr ?_
  simp only [List.forall_mem_cons]
  exact ⟨depth_optionalText_le _ _, depth_map_le (fun _ => Nat.zero_le 0) _, depth_optionalText_le _ _,
    List.forall_mem_nil _⟩

private theorem Operation.depth_toJson_le (operation : Operation) : operation.toJson.depth ≤ 3 := by
  refine depth_record_le.mpr ?_
  simp only [List.forall_mem_cons]
  refine ⟨depth_optionalText_le _ _, depth_optionalText_le _ _, depth_optionalText_le _ _, ?_, fun tree same => ?_,
    List.forall_mem_nil _⟩
  · exact depth_map_le (fun tags => Nat.le_succ_of_le (depth_strings_le tags)) operation.tags
  · split at same
    · cases same
    · obtain rfl := Option.some.inj same
      exact depth_array_le.mpr (List.forall_mem_map.mpr fun parameter _ => parameter.depth_toJson_le)

private theorem PathItem.depth_toJson_le (item : PathItem) : item.toJson.depth ≤ 4 := by
  refine depth_record_le.mpr ?_
  simp only [List.forall_mem_cons]
  refine ⟨?_, ?_, ?_, ?_, ?_, ?_, ?_, ?_, List.forall_mem_nil _⟩
  all_goals exact depth_map_le Operation.depth_toJson_le _

theorem Schema.toJsonEntries_eq_map (schemas : List (String × Schema)) :
    toJsonEntries schemas = schemas.map fun (name, schema) => (name, schema.toJson) := by
  induction schemas with
  | nil => rfl
  | cons schema schemas ih =>
    obtain ⟨name, schema⟩ := schema
    rw [toJsonEntries, ih, List.map_cons]

/-- A schema of some depth holds examples that are less deep, and properties that are two levels less deep. -/
theorem Schema.depth_toJson_le {reference : Option String} {sample : Option Json} {properties : List (String × Schema)}
    {bound : Nat} : (Schema.mk reference sample properties).toJson.depth ≤ bound + 1 ↔
      (∀ value, sample = some value → value.depth ≤ bound) ∧
        (properties = [] ∨
          ∃ inner, bound = inner + 1 ∧ ∀ property ∈ properties, property.2.toJson.depth ≤ inner) := by
  rw [toJson, toJsonEntries_eq_map, depth_record_le]
  simp only [List.forall_mem_cons]
  constructor
  · rintro ⟨_, shallow, deeper, _⟩
    refine ⟨shallow, ?_⟩
    cases properties with
    | nil => exact Or.inl rfl
    | cons property properties =>
      have deep := deeper _ rfl
      obtain ⟨inner, rfl⟩ : ∃ inner, bound = inner + 1 := ⟨bound - 1, by rw [depth] at deep; omega⟩
      exact Or.inr ⟨inner, rfl, List.forall_mem_map.mp (depth_object_le.mp deep)⟩
  · rintro ⟨shallow, deeper⟩
    refine ⟨depth_optionalText_le reference bound, shallow, fun value present => ?_, List.forall_mem_nil _⟩
    rcases deeper with rfl | ⟨inner, rfl, deeper⟩
    · cases present
    · split at present
      · cases present
      · obtain rfl := Option.some.inj present
        exact depth_object_le.mpr (List.forall_mem_map.mpr deeper)

theorem Components.depth_toJson_le {components : Components} {bound : Nat} :
    components.toJson.depth ≤ bound + 2 ↔ ∀ schema ∈ components.schemas, schema.2.toJson.depth ≤ bound := by
  rw [toJson, depth_object_le, List.forall_mem_singleton, depth_object_le, Schema.toJsonEntries_eq_map]
  exact List.forall_mem_map

/-- Only schemas can make a document nest too deep. -/
theorem Document.depth_toJson_le {document : Document} {bound : Nat} (enough : 3 ≤ bound)
    (shallow : ∀ schema ∈ document.schemas, schema.2.toJson.depth ≤ bound) :
    document.toJson.depth ≤ bound + 3 := by
  refine depth_record_le.mpr ?_
  simp only [List.forall_mem_cons]
  refine ⟨depth_optionalText_le _ _, ?_, ?_, ?_, ?_, List.forall_mem_nil _⟩
  · exact depth_map_le (fun info => Nat.le_trans info.depth_toJson_le (by omega)) document.info
  · rintro _ ⟨⟩
    exact depth_array_le.mpr (List.forall_mem_map.mpr fun server _ => Nat.le_trans server.depth_toJson_le (by omega))
  · rintro _ ⟨⟩
    exact depth_object_le.mpr (List.forall_mem_map.mpr fun path _ => Nat.le_trans path.2.depth_toJson_le (by omega))
  · intro tree same
    obtain ⟨components, given, rfl⟩ := Option.map_eq_some_iff.mp same
    refine Components.depth_toJson_le.mpr fun schema member => shallow schema ?_
    rw [schemas, given]
    exact member

end ApiStyle
