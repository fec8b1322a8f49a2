import ApiStyle.Proofs.StoredTrees

/-! What decoders return for written trees. The rules follow the way trees are made: lists and maps part by part,
records field by field, in the order in which their decoder knows the fields. -/

namespace ApiStyle.Json

open Source

variable {α β σ : Type}

theorem string_ne_null (text : String) : Json.string text ≠ .null := by
  intro impossible
  cases impossible

theorem array_ne_null (items : List Json) : Json.array items ≠ .null := by
  intro impossible
  cases impossible

theorem object_ne_null (members : List (String × Json)) : Json.object members ≠ .null := by
  intro impossible
  cases impossible

/-- A decoder returns a value for a tree that has been read from a text. -/
def Decodes (decode : Draft → Except Fault α) (tree : Json) (value : α) : Prop := decode tree.toDraft = .ok value

namespace Decodes

theorem text (text : String) : Decodes Source.text (.string text) text := rfl

theorem optional {decode : Draft → Except Fault α} {tree : Json} {value : α} (present : tree ≠ .null)
    (decodes : Decodes decode tree value) : Decodes (Source.optional decode) tree (some value) := by
  have there : absent (m := Except Fault) tree.toDraft = .ok false := by
    cases tree with
    | null => exact absurd rfl present
    | _ => rfl
  exact bind_eq_ok.mpr ⟨_, rfl, bind_eq_ok.mpr ⟨false, there, bind_eq_ok.mpr ⟨value, decodes, rfl⟩⟩⟩

theorem sequence {decode : Draft → Except Fault α} {encode : α → Json} {values : List α}
    (each : ∀ value ∈ values, Decodes decode (encode value) value) :
    Decodes (Source.sequence decode) (.array (values.map encode)) values := by
  have items (index : Nat) : itemsFrom decode index (toDraftItems (values.map encode)) = .ok values := by
    induction values generalizing index with
    | nil => rfl
    | cons value values ih =>
      obtain ⟨first, each⟩ := List.forall_mem_cons.mp each
      exact bind_eq_ok.mpr ⟨value, mapError_eq_ok.mpr first, bind_eq_ok.mpr ⟨values, ih each (index + 1), rfl⟩⟩
  exact items 0

theorem strings (items : List String) : Decodes (Source.sequence Source.text) (Json.strings items) items :=
  sequence fun item _ => text item

theorem table {decode : Draft → Except Fault α} {encode : α → Json} {entries : List (String × α)}
    (distinct : (entries.map Prod.fst).Nodup) (each : ∀ entry ∈ entries, Decodes decode (encode entry.2) entry.2) :
    Decodes (Source.table decode) (.object (entries.map fun (key, value) => (key, encode value))) entries := by
  have members (index : Nat) (before : List (String × α)) (distinct : ((before ++ entries).map Prod.fst).Nodup) :
      tableFrom decode (Draft.entriesFrom index (toDraftMembers (entries.map fun (key, value) => (key, encode value))))
        before = .ok (before ++ entries) := by
    induction entries generalizing index before with
    | nil => exact congrArg Except.ok (List.append_nil before).symm
    | cons entry entries ih =>
      obtain ⟨key, value⟩ := entry
      obtain ⟨first, each⟩ := List.forall_mem_cons.mp each
      have fresh := Table.fresh_of_nodup distinct
      refine bind_eq_ok.mpr ⟨key, rfl, bind_eq_ok.mpr ⟨value, mapError_eq_ok.mpr first, ?_⟩⟩
      rw [Table.put_of_not_mem fresh]
      rw [List.append_cons] at distinct
      have distinctRest : (entries.map Prod.fst).Nodup := by
        rw [List.map_append] at distinct
        exact (List.nodup_append.mp distinct).2.1
      rw [ih distinctRest each (index + 1) (before ++ [(key, value)]) distinct, ← List.append_cons]
  exact members 0 [] distinct

end Decodes

/-- Members of an object fill a record, field by field. A member that is left out leaves its field as it is. -/
inductive Fills : List (Field (Except Fault) Draft σ) → List (String × Option Json) → σ → σ → Prop
  | nil {record} : Fills [] [] record record
  | absent {field fields members record final} : Fills fields members record final →
      Fills (field :: fields) ((field.name, none) :: members) record final
  | present {field fields members record changed final tree} :
      field.read (toDraft tree) record = .ok changed → Fills fields members changed final →
      Fills (field :: fields) ((field.name, some tree) :: members) record final

/-- The members that are not left out. -/
def present (members : List (String × Option Json)) : List (String × Json) :=
  members.filterMap fun (key, value) => value.map ((key, ·))

/-- Fields are met in their order, so the ones that are still to come have not been seen. -/
private theorem readNamed_fills (unknown : Unknown) {all fields : List (Field (Except Fault) Draft σ)}
    (distinct : (all.map Field.name).Nodup) {members : List (String × Option Json)} {record final : σ}
    (fills : Fills fields members record final) (before : List (Field (Except Fault) Draft σ))
    (parts : all = before ++ fields) (index : Nat) (seen : List String)
    (earlier : ∀ name ∈ seen, name ∈ before.map Field.name) :
    readNamed unknown all index (Draft.entriesFrom index (toDraftMembers (present members))) seen record =
      .ok (final, .named (((present members).map Prod.fst).reverse ++ seen)) := by
  induction fills generalizing before index seen with
  | nil => rfl
  | @absent field fields members record final _ ih =>
    refine ih (before ++ [field]) (by rw [parts, List.append_cons]) index seen fun name member => ?_
    rw [List.map_append]
    exact List.mem_append_left _ (earlier name member)
  | @present field fields members record changed final tree read _ ih =>
    have found := find?_name distinct (by rw [parts]; simp : field ∈ all)
    have unseen : field.name ∉ seen := by
      intro member
      rw [parts, List.map_append] at distinct
      exact (List.nodup_append.mp distinct).2.2 _ (earlier _ member) _ List.mem_cons_self rfl
    have rest := ih (before ++ [field]) (by rw [parts, List.append_cons]) (index + 1) (field.name :: seen) (by
      rw [List.map_append, List.map_singleton]
      exact List.forall_mem_cons.mpr ⟨by simp, fun name member => List.mem_append_left _ (earlier name member)⟩)
    refine bind_eq_ok.mpr ⟨field.name, rfl, ?_⟩
    rw [found]
    dsimp only
    rw [if_neg unseen]
    refine bind_eq_ok.mpr ⟨changed, mapError_eq_ok.mpr read, rest.trans ?_⟩
    change _ = Except.ok (final, Source.Given.named ((field.name :: (Json.present members).map Prod.fst).reverse ++ seen))
    rw [List.reverse_cons, List.append_assoc, List.singleton_append]

theorem Decodes.record {unknown : Unknown} {expected : String} {fields : List (Field (Except Fault) Draft σ)}
    {initial final : σ} {members : List (String × Option Json)} {value : α} (finish : σ → Source.Given → Except Fault α)
    (distinct : (fields.map Field.name).Nodup) (fills : Fills fields members initial final)
    (finished : finish final (.named ((present members).map Prod.fst).reverse) = .ok value) :
    Decodes (fun node => readRecordWith unknown expected fields initial node finish) (.record members) value := by
  have read := readNamed_fills unknown distinct fills [] rfl 0 [] (List.forall_mem_nil _)
  rw [List.append_nil] at read
  exact bind_eq_ok.mpr ⟨_, rfl, bind_eq_ok.mpr ⟨_, rfl, bind_eq_ok.mpr ⟨_, read, finished⟩⟩⟩

theorem Decodes.defaulted {expected : String} {fields : List (Field (Except Fault) Draft σ)} {initial final : σ}
    {members : List (String × Option Json)} (distinct : (fields.map Field.name).Nodup)
    (fills : Fills fields members initial final) :
    Decodes (readDefaulted expected fields initial) (.record members) final :=
  Decodes.record (fun record _ => pure record) distinct fills rfl

namespace Fills

variable {fields : List (Field (Except Fault) Draft σ)} {members : List (String × Option Json)} {record final : σ}
  {name : String}

theorem required {decode : Draft → Except Fault β} {put : β → σ → σ} {tree : Json} {value : β}
    (decodes : Decodes decode tree value) (rest : Fills fields members (put value record) final) :
    Fills (⟨name, fun node record => do return put (← decode node) record⟩ :: fields) ((name, some tree) :: members)
      record final :=
  .present (bind_eq_ok.mpr ⟨value, decodes, rfl⟩) rest

theorem optional {decode : Draft → Except Fault β} {put : Option β → σ → σ} {encode : β → Json} {value : Option β}
    (decodes : ∀ given, value = some given → encode given ≠ .null ∧ Decodes decode (encode given) given)
    (unset : put none record = record) (rest : Fills fields members (put value record) final) :
    Fills (⟨name, fun node record => do return put (← Source.optional decode node) record⟩ :: fields)
      ((name, value.map encode) :: members) record final := by
  cases value with
  | none => exact .absent (unset ▸ rest)
  | some given =>
    obtain ⟨notNull, decodes⟩ := decodes given rfl
    exact .required (Decodes.optional notNull decodes) rest

theorem unlessEmpty {decode : Draft → Except Fault (List β)} {put : List β → σ → σ} {tree : Json} {values : List β}
    (decodes : values ≠ [] → Decodes decode tree values) (unset : put [] record = record)
    (rest : Fills fields members (put values record) final) :
    Fills (⟨name, fun node record => do return put (← decode node) record⟩ :: fields)
      ((name, if values.isEmpty then none else some tree) :: members) record final := by
  cases values with
  | nil => exact .absent (unset ▸ rest)
  | cons => exact .required (decodes (by simp)) rest

theorem optionalText {put : Option String → σ → σ} {text : Option String} (unset : put none record = record)
    (rest : Fills fields members (put text record) final) :
    Fills (⟨name, fun node record => do return put (← Source.optional Source.text node) record⟩ :: fields)
      ((name, text.map .string) :: members) record final :=
  .optional (fun given _ => ⟨string_ne_null given, .text given⟩) unset rest

theorem optionalTree {decode : Draft → Except Fault Json} {put : Option Json → σ → σ} {value : Option Json}
    (decodes : ∀ given, value = some given → given ≠ .null ∧ Decodes decode given given)
    (unset : put none record = record) (rest : Fills fields members (put value record) final) :
    Fills (⟨name, fun node record => do return put (← Source.optional decode node) record⟩ :: fields)
      ((name, value) :: members) record final := by
  cases value with
  | none => exact .absent (unset ▸ rest)
  | some given =>
    obtain ⟨notNull, decodes⟩ := decodes given rfl
    exact .required (Decodes.optional notNull decodes) rest

end Fills

end ApiStyle.Json
