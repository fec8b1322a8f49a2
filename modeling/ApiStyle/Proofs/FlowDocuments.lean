import ApiStyle.Proofs.Edits
import ApiStyle.Proofs.FlowDecoding
import ApiStyle.Proofs.JsonAsYaml
import ApiStyle.Proofs.JsonText

/-! Documents that are written as portable JSON. YAML has the same documents, as far as their records are objects. -/

namespace ApiStyle

open Source Yaml

theorem License.agrees : Agrees (.record .license) License.decode License.decode :=
  .defaulted .license (.put (.optional .text) (.put (.optional .text) .nil))

theorem Contact.agrees : Agrees (.record .contact) Contact.decode Contact.decode :=
  .defaulted .contact (.put (.optional .text) (.put (.optional .text) (.put (.optional .text) .nil)))

theorem Info.agrees : Agrees (.record .info) Info.decode Info.decode := by
  refine .defaulted .info (.put (.optional .text) (.put (.optional .text) (.put (.optional .text) ?_)))
  exact .put (.optional License.agrees) (.put (.optional Contact.agrees) .nil)

theorem ServerVariable.agrees : Agrees (.record .serverVariable) ServerVariable.decode ServerVariable.decode :=
  .defaulted .serverVariable (.put .text (.put .texts (.put (.optional .text) .nil)))

theorem Server.agrees : Agrees (.record .server) Server.decode Server.decode := by
  unfold Server.decode readRecord
  have bindings := Agrees.table ServerVariable.agrees
  refine .record .server (.put .text (.put (.optional .text) (.put bindings .nil))) ?_
  intro server given value read
  obtain ⟨_, required, same⟩ := bind_eq_ok.mp read
  obtain rfl := Except.ok.inj same
  exact (arrives_require required).bind_left (.pure server)

theorem ParameterLocation.agrees : Agrees .variant ParameterLocation.decode ParameterLocation.decode := by
  refine .variant fun name location same => ?_
  obtain rfl := Except.ok.inj same
  exact .pure _

theorem Parameter.agrees : Agrees (.record .parameter) Parameter.decode Parameter.decode := by
  refine .defaulted .parameter (.put (.optional .text) (.put (.optional ParameterLocation.agrees) ?_))
  exact .put (.optional .text) .nil

theorem Operation.agrees : Agrees (.record .operation) Operation.decode Operation.decode := by
  refine .defaulted .operation (.put (.optional .text) (.put (.optional .text) (.put (.optional .text) ?_)))
  exact .put (.optional .texts) (.put (.sequence Parameter.agrees) .nil)

theorem PathItem.agrees : Agrees (.record .pathItem) PathItem.decode PathItem.decode := by
  refine .defaulted .pathItem (.put (.optional Operation.agrees) (.put (.optional Operation.agrees) ?_))
  refine .put (.optional Operation.agrees) (.put (.optional Operation.agrees) ?_)
  refine .put (.optional Operation.agrees) (.put (.optional Operation.agrees) ?_)
  exact .put (.optional Operation.agrees) (.put (.optional Operation.agrees) .nil)

private theorem Paths.decodeFrom_agrees {members : List (String × Json)} {entries : List (Node × Node)}
    (stands : List.Forall₂ (Labels Stands) members entries) (expected : String) (index : Nat)
    (before : List (String × PathItem)) {paths : List (String × PathItem)}
    (read : decodeFrom index (Json.Draft.entriesFrom index (Json.toDraftMembers members)) before = .ok paths) :
    Arrives (∀ member ∈ members, isExtension member.1 = false → member.2.ByName (.record .pathItem))
      (decodeFrom index (Node.entriesFrom expected index entries) before) paths := by
  induction stands generalizing index before with
  | nil =>
    obtain rfl := Except.ok.inj read
    exact (Arrives.pure _).congr (iff_of_true trivial (List.forall_mem_nil _))
  | cons first _ ih =>
    obtain @⟨key, tree, _, _, first⟩ := first
    obtain ⟨_, named, read⟩ := bind_eq_ok.mp read
    obtain rfl := Except.ok.inj named
    refine Arrives.congr ?_ List.forall_mem_cons.symm
    refine (Arrives.pure key).bind_right ?_
    dsimp only at read ⊢
    split at read
    next extension =>
      have vacuous : isExtension key = false → tree.ByName (.record .pathItem) :=
        fun ordinary => absurd extension (Bool.eq_false_iff.mp ordinary)
      obtain ⟨_, _, read⟩ := bind_eq_ok.mp read
      rw [if_pos extension]
      exact ((Agrees.skip first).bind_right (ih _ _ read)).congr (and_iff_right vacuous).symm
    next kept =>
      obtain ⟨item, taken, read⟩ := bind_eq_ok.mp read
      rw [if_neg kept]
      refine Arrives.congr ?_ (and_congr_left' (forall_prop_of_true (Bool.eq_false_iff.mpr kept)).symm)
      refine (PathItem.agrees first (mapError_eq_ok.mp taken)).within.bind ?_
      split at read
      next => cases read
      next fresh =>
        rw [if_neg fresh]
        exact ih _ _ read

theorem Paths.agrees : Agrees .paths Paths.decode Paths.decode := by
  intro tree node stands paths read
  replace read := of_resolve read
  obtain ⟨entries, found, read⟩ := bind_eq_ok.mp read
  obtain ⟨members, rfl, rfl⟩ := entries_eq_ok found
  refine (arrives_resolve stands).bind_right (Arrives.locating ?_)
  cases stands with
  | object stands =>
    exact ((Arrives.pure _).bind_right (decodeFrom_agrees stands _ 0 [] read)).congr byName_paths.symm

/-- YAML lets one more container nest. -/
theorem Schema.agrees (limit : Nat) : Agrees (.record .schema) (Schema.decode limit) (Schema.decode (limit + 1)) := by
  induction limit using Nat.strong_induction_on with
  | h limit ih =>
    intro tree node stands schema read
    cases limit with
    | zero => exact absurd read (Json.Draft.schema_at_limit _ schema)
    | succ limit =>
      have examples : Agrees .other (Source.optional (Source.json (m := Except Json.Fault) limit))
          (Source.optional (Source.json (m := Reading) (limit + 1))) := .optional (.json (Nat.le_succ _))
      rw [Schema.decode] at read ⊢
      cases limit with
      | zero =>
        have properties : Agrees (.map (.record .schema)) (fun draft => do
            let draft ← resolve draft
            let _ ← entries (m := Except Json.Fault) "a map" draft
            leaf draft
            return []) (Source.table (m := Reading) (Schema.decode 0)) := by
          intro tree node stands properties read
          exact absurd read (Json.Draft.properties_at_limit _ [] properties)
        exact Agrees.defaulted .schema (.put (.optional .text) (.put examples (.put properties .nil))) stands read
      | succ inner =>
        have properties := Agrees.table (ih inner (by omega))
        exact Agrees.defaulted .schema (.put (.optional .text) (.put examples (.put properties .nil))) stands read

theorem Components.agrees (limit : Nat) :
    Agrees (.record .components) (Components.decode (limit + 2)) (Components.decode (limit + 3)) :=
  .defaulted .components (.put (.table (Schema.agrees limit)) .nil)

theorem Document.agrees :
    Agrees (.record .document) (Document.decode Json.nestingLimit) (Document.decode Yaml.nestingLimit) := by
  refine .defaulted .document (.put (.optional .text) (.put (.optional Info.agrees) ?_))
  exact .put (.sequence Server.agrees) (.put Paths.agrees (.put (.optional (Components.agrees 124)) .nil))

/-- A text of one tree in a layout that is the same in both formats, and no tabs outside of its brackets. -/
inductive Json.IsPortableText (tree : Json) : List Char → Prop
  | mk {gap text blanks} : Blank gap → '\t' ∉ gap → Portable tree text → Blank blanks → '\t' ∉ blanks →
      IsPortableText tree (gap ++ (text ++ blanks))

theorem Json.Draft.ofText_behind {tree : Json} {gap text blanks : List Char} (blank : Blank gap)
    (spells : Spells tree text)
    (blanksToo : Blank blanks) : Draft.ofText (gap ++ (text ++ blanks)) = (tree.toDraft, none) := by
  have skipped := skipBlank_append blanksToo []
  have ends := endsNumeral_append blanksToo endsNumeral_nil
  rw [List.append_nil] at skipped ends
  have enough : 2 * text.length ≤ fuelFor (gap ++ (text ++ blanks)) := by
    simp only [fuelFor, List.length_append]
    omega
  have read : readValue (fuelFor (gap ++ (text ++ blanks))) (gap ++ (text ++ blanks)) =
      (tree.toDraft, some blanks) := by
    rw [← readsWith _ spells enough ends]
    exact readValue_append blank _ _
  rw [Draft.ofText, read]
  simp only [skipped]
  rfl

theorem Json.IsPortableText.ofText {tree : Json} {text : List Char} (portable : tree.IsPortableText text) :
    Draft.ofText text = (tree.toDraft, none) := by
  obtain ⟨blank, _, portable, blanksToo, _⟩ := portable
  exact Draft.ofText_behind blank portable.spells blanksToo

namespace Document

theorem isContainer_of_decode {tree : Json} {limit : Nat} {document : Document}
    (read : decode (m := Except Json.Fault) limit tree.toDraft = .ok document) : tree.isContainer = true := by
  replace read := of_resolve read
  obtain ⟨shape, found, _⟩ := bind_eq_ok.mp read
  rcases record_eq_ok found with ⟨members, rfl, _⟩ | ⟨items, rfl, _⟩ <;> rfl

/-- What JSON reads from a portable text YAML reads, too, if the records of its tree are objects and its variants names,
and it refuses an array or an object for its shape if they are not. Also of other texts YAML refuses those that hold a
character it does not allow. -/
theorem ofYaml_of_ofJson {text : String} {document : Document} (read : ofJson text = .ok document) :
    (∀ tree : Json, tree.IsPortableText text.toList →
      (tree.ByName (.record .document) → ofYaml text = .ok document) ∧
        (¬ tree.ByName (.record .document) → ∃ fault, ofYaml text = .error (.yaml fault) ∧ IsMisshapen fault)) ∧
    ∀ character ∈ text.toList, isAllowed character = false →
      ofYaml text = .error (.yaml (.malformed (.forbidden (Text.byteCount (text.toList.takeWhile isAllowed))))) := by
  refine ⟨fun tree portable => ?_, fun character held forbidden => ofYaml_forbidden held forbidden⟩
  have decoded : decode (m := Except Json.Fault) Json.nestingLimit tree.toDraft = .ok document := by
    rw [← toOption_eq_some, ← toOption_ofJson portable.ofText, read]
    rfl
  generalize whole : text.toList = characters at portable
  obtain ⟨blank, tabs, portable, blanksToo, tabsToo⟩ := portable
  obtain ⟨node, contents, stands⟩ :=
    Contents.ofText_portable portable (isContainer_of_decode decoded) blank tabs blanksToo tabsToo
  unfold ofYaml decodeText
  rw [whole, contents]
  dsimp only
  rcases Document.agrees stands decoded _ 0 with ⟨byName, returned⟩ | ⟨misfits, fault, refused, misshapen⟩
  · refine ⟨fun _ => ?_, fun misfits => absurd byName misfits⟩
    rw [returned]
    rfl
  · refine ⟨fun byName => absurd byName misfits, fun _ => ⟨fault, ?_, misshapen⟩⟩
    rw [refused]
    rfl

/-- A document in two lines, with an escape in its title and a number that belongs to no field. -/
def folded : String := "\x7b\"info\":\n\x7b\"title\":\"\\u00e9\",\"x-rank\":3\x7d\x7d"

def foldedTree : Json := .object [("info", .object [("title", .string "é"), ("x-rank", .number (.ofNat 3))])]

private theorem keyed_quoted (key : String) {value : Json} {after text : List Char} (blank : Json.Blank after)
    (short : (Json.quoted key.toList).length ≤ 1024) (plain : Json.IsPortable (Json.quoted key.toList))
    (portable : Json.Portable value text) :
    Json.Keyed Json.Portable (key, value) (Json.quoted key.toList ++ ([] ++ ':' :: (after ++ text))) :=
  .mk (Json.quotes_quoted _) plain (by rwa [List.append_nil]) (List.forall_mem_nil _) blank portable

theorem folded_loaded : foldedTree.IsPortableText folded.toList ∧ foldedTree.ByName (.record .document) ∧
    ofJson folded = .ok { info := some { title := some "é" } } ∧
    ofYaml folded = .ok { info := some { title := some "é" } } := by
  have accent : Json.Draft.Writes 'é' "\\u00e9".toList := @Json.Draft.Writes.code 233 "00e9".toList rfl (by decide)
  have title : Json.Portable (.string "é") "\"\\u00e9\"".toList := .string (.mk (.cons accent .nil)) (by decide)
  have rank : Json.Portable (.number (.ofNat 3)) (Numeral.ofNat 3).text :=
    .number (Numeral.IsWord.isPortable ⟨3, rfl, rfl⟩)
  have newline : Json.Blank ['\n'] := List.forall_mem_singleton.mpr rfl
  have titled := keyed_quoted "title" .nil (by decide) (by decide) title
  have ranked := keyed_quoted "x-rank" .nil (by decide) (by decide) rank
  have info := Json.Portable.members .nil (.next titled .nil .nil (.last ranked .nil))
  have whole := Json.Portable.members .nil (.last (keyed_quoted "info" newline (by decide) (by decide) info) .nil)
  have portable : foldedTree.IsPortableText folded.toList :=
    @Json.IsPortableText.mk _ [] _ [] .nil List.not_mem_nil whole .nil List.not_mem_nil
  have named : (Json.object [("title", .string "é"), ("x-rank", .number (.ofNat 3))]).ByName (.record .info) := by
    refine .record (List.forall_mem_cons.mpr ⟨?_, List.forall_mem_singleton.mpr ?_⟩)
    · intro role known
      obtain rfl := Option.some.inj known
      exact .other
    · intro role known
      cases known
  have byName : foldedTree.ByName (.record .document) := by
    refine .record (List.forall_mem_singleton.mpr ?_)
    intro role known
    obtain rfl := Option.some.inj known
    exact named
  have read : ofJson folded = .ok { info := some { title := some "é" } } := by
    rw [← toOption_eq_some, toOption_ofJson portable.ofText]
    rfl
  exact ⟨portable, byName, read, ((ofYaml_of_ofJson read).1 foldedTree portable).1 byName⟩

end Document

end ApiStyle
