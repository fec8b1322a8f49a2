import ApiStyle.Decoding.Source
import ApiStyle.Proofs.Results
import ApiStyle.Proofs.Tables

/-! Assertions for decoders of any format. A decoder ensures what holds of every value that it returns; where it
refuses there is nothing to show. The rules follow the combinators that decoders are made of, so that what a
record type guarantees is shown once, whatever text it is read from. -/

namespace ApiStyle

open Source

/-- A format whose decoders' results can be observed. Neither naming a place nor going a step down changes them. -/
class Observed (m : Type → Type) (ν : outParam Type) [Source m ν] where
  Returns : {α : Type} → m α → α → Prop
  of_pure : ∀ {α : Type} {first value : α}, Returns (pure first : m α) value → value = first
  of_bind : ∀ {α β : Type} {program : m α} {next : α → m β} {value : β}, Returns (program >>= next) value →
    ∃ first, Returns program first ∧ Returns (next first) value
  of_locating : ∀ {α : Type} {node : ν} {body : m α} {value : α}, Returns (locating node body) value →
    Returns body value
  of_within : ∀ {α : Type} {step : Step} {body : m α} {value : α}, Returns (within step body) value →
    Returns body value
  not_refuse : ∀ {α : Type} {spot : Spot} {cause : Cause} {value : α}, ¬ Returns (refuse spot cause : m α) value

variable {m : Type → Type} {ν : Type} [Source m ν] [Observed m ν] {α β σ : Type}

def Ensures (program : m α) (post : α → Prop) : Prop := ∀ value, Observed.Returns program value → post value

namespace Ensures

theorem weaken {program : m α} {post weaker : α → Prop} (holds : Ensures program post)
    (implies : ∀ value, post value → weaker value) : Ensures program weaker :=
  fun value returned => implies value (holds value returned)

theorem trivially (program : m α) : Ensures program fun _ => True := fun _ _ => trivial

protected theorem pure {value : α} {post : α → Prop} (holds : post value) : Ensures (pure value : m α) post :=
  fun _ returned => Observed.of_pure returned ▸ holds

protected theorem bind {program : m α} {next : α → m β} {middle : α → Prop} {post : β → Prop}
    (first : Ensures program middle) (rest : ∀ value, middle value → Ensures (next value) post) :
    Ensures (program >>= next) post := by
  intro value returned
  obtain ⟨between, begun, ended⟩ := Observed.of_bind returned
  exact rest between (first between begun) value ended

theorem after {program : m α} {next : α → m β} {post : β → Prop} (rest : ∀ value, Ensures (next value) post) :
    Ensures (program >>= next) post :=
  (trivially program).bind fun value _ => rest value

theorem refuse {spot : Spot} {cause : Cause} {post : α → Prop} :
    Ensures (Source.refuse spot cause : m α) post :=
  fun _ returned => absurd returned Observed.not_refuse

theorem locating {node : ν} {body : m α} {post : α → Prop} (holds : Ensures body post) :
    Ensures (Source.locating node body) post :=
  fun value returned => holds value (Observed.of_locating returned)

theorem within {step : Step} {body : m α} {post : α → Prop} (holds : Ensures body post) :
    Ensures (Source.within step body) post :=
  fun value returned => holds value (Observed.of_within returned)

theorem optional {decode : ν → m α} {node : ν} {post : α → Prop} (holds : ∀ node, Ensures (decode node) post) :
    Ensures (Source.optional decode node) fun found => ∀ value, found = some value → post value := by
  refine after fun node => after fun missing => ?_
  split
  · exact Ensures.pure fun _ impossible => by cases impossible
  · refine (holds node).bind fun value kept => Ensures.pure ?_
    rintro _ ⟨⟩
    exact kept

private theorem itemsFrom {decode : ν → m α} {post : α → Prop} (holds : ∀ node, Ensures (decode node) post)
    (index : Nat) (nodes : List ν) :
    Ensures (Source.itemsFrom decode index nodes) fun items => ∀ item ∈ items, post item := by
  induction nodes generalizing index with
  | nil => exact Ensures.pure (by simp)
  | cons node nodes ih =>
    refine (holds node).within.bind fun first kept => (ih (index + 1)).bind fun rest others => Ensures.pure ?_
    exact List.forall_mem_cons.mpr ⟨kept, others⟩

theorem sequence {decode : ν → m α} {node : ν} {post : α → Prop} (holds : ∀ node, Ensures (decode node) post) :
    Ensures (Source.sequence decode node) fun items => ∀ item ∈ items, post item :=
  after fun _ => after fun nodes => itemsFrom holds 0 nodes

end Ensures

namespace Ensures

private theorem tableFrom {decode : ν → m α} {holds : α → Prop} (each : ∀ node, Ensures (decode node) holds)
    (entries : List (Entry m ν)) (table : List (String × α)) (kept : IsTable holds table) :
    Ensures (Source.tableFrom decode entries table) (IsTable holds) := by
  induction entries generalizing table with
  | nil => exact Ensures.pure kept
  | cons entry entries ih =>
    exact after fun key => (each entry.value).within.bind fun value fresh => ih _ (kept.put key fresh)

theorem table {decode : ν → m α} {node : ν} {holds : α → Prop} (each : ∀ node, Ensures (decode node) holds) :
    Ensures (Source.table decode node) (IsTable holds) :=
  after fun _ => locating (after fun entries => tableFrom each entries [] IsTable.nil)

/-- What every field keeps. -/
def Keeps (post : σ → Prop) (field : Field m ν σ) : Prop :=
  ∀ node record, post record → Ensures (field.read node record) post

private theorem readNamed {unknown : Unknown} {fields : List (Field m ν σ)} {post : σ → Prop}
    (keeps : ∀ field ∈ fields, Keeps post field) (index : Nat) (entries : List (Entry m ν)) (seen : List String)
    (record : σ) (kept : post record) :
    Ensures (Source.readNamed unknown fields index entries seen record) fun result => post result.1 := by
  induction entries generalizing index seen record with
  | nil => exact Ensures.pure kept
  | cons entry entries ih =>
    refine after fun key => ?_
    split
    · cases unknown <;> exact after fun _ => ih (index + 1) seen record kept
    next field found =>
      split
      · exact refuse
      · exact (keeps field (List.mem_of_find?_eq_some found) entry.value record kept).within.bind fun changed held =>
          ih (index + 1) (key :: seen) changed held

private theorem readPositional {fields : List (Field m ν σ)} {post : σ → Prop}
    (keeps : ∀ field ∈ fields, Keeps post field) (count : Nat) (items : List ν) (record : σ) (kept : post record) :
    Ensures (Source.readPositional count fields items record) fun result => post result.1 := by
  induction items generalizing count fields record with
  | nil => cases fields <;> exact Ensures.pure kept
  | cons item items ih =>
    cases fields with
    | nil => exact after fun _ => Ensures.pure kept
    | cons field fields =>
      obtain ⟨first, rest⟩ := List.forall_mem_cons.mp keeps
      exact (first item record kept).within.bind fun changed held => ih rest (count + 1) changed held

theorem readRecordWith {unknown : Unknown} {expected : String} {fields : List (Field m ν σ)} {initial : σ} {node : ν}
    {finish : σ → Source.Given → m α} {post : α → Prop} (middle : σ → Prop) (begun : middle initial)
    (keeps : ∀ field ∈ fields, Keeps middle field)
    (ended : ∀ record given, middle record → Ensures (finish record given) post) :
    Ensures (Source.readRecordWith unknown expected fields initial node finish) post := by
  refine after fun node => locating (after fun shape => ?_)
  cases shape with
  | named entries =>
    exact (readNamed keeps 0 entries [] initial begun).bind fun result held => ended result.1 result.2 held
  | positional items =>
    exact (readPositional keeps 0 items initial begun).bind fun result held => ended result.1 result.2 held

theorem readDefaulted {expected : String} {fields : List (Field m ν σ)} {initial : σ} {node : ν} {post : σ → Prop}
    (begun : post initial) (keeps : ∀ field ∈ fields, Keeps post field) :
    Ensures (Source.readDefaulted expected fields initial node) post :=
  readRecordWith post begun keeps fun _ _ held => Ensures.pure held

end Ensures

end ApiStyle
