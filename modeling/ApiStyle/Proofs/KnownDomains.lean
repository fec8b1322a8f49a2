import ApiStyle.Proofs.Cutting
import ApiStyle.Proofs.Validation
import Mathlib.Data.List.Basic
import Mathlib.Data.List.TakeWhile

/-! Lists of extra domains. Only servers are checked against them; a list counts as the set of the names that its
entries spell, and a longer list does no more than spare some urls. -/

namespace ApiStyle

namespace Text

/-- A text is a core with white space on both sides. -/
structure Trims (text core : List Char) : Prop where
  around : ∃ before after, text = before ++ core ++ after ∧ (∀ character ∈ before, isWhite character) ∧
    ∀ character ∈ after, isWhite character
  starts : ∀ character, core.head? = some character → ¬ isWhite character
  ends : ∀ character, core.getLast? = some character → ¬ isWhite character

theorem trims_iff {text core : List Char} : Trims text core ↔ trimChars text = core := by
  constructor
  · rintro ⟨around, starts, ends⟩
    exact surrounded_iff.mp ⟨around, starts, ends⟩
  · intro trimmed
    obtain ⟨around, starts, ends⟩ := surrounded_iff.mpr trimmed
    exact ⟨around, starts, ends⟩

private theorem trims_trimChars (text : List Char) : Trims text (trimChars text) := trims_iff.mpr rfl

end Text

namespace Domain

/-- What a listed text stands for: white space around it, one dot in front and large letters do not count. -/
inductive Spells (entry name : String) : Prop where
  | dotted (rest : List Char) (trims : Text.Trims entry.toList ('.' :: rest))
    (same : lower (String.ofList rest) = name)
  | bare (core : List Char) (trims : Text.Trims entry.toList core) (starts : core.head? ≠ some '.')
    (same : lower (String.ofList core) = name)

theorem spells_iff {entry name : String} : Spells entry name ↔ lower (bareEntry entry) = name := by
  constructor
  · intro spelled
    cases spelled with
    | dotted rest trims same =>
      rw [bareEntry, Text.trims_iff.mp trims]
      exact same
    | bare core trims starts same =>
      rw [bareEntry, Text.trims_iff.mp trims]
      split
      · exact absurd rfl starts
      · exact same
  · intro same
    unfold bareEntry at same
    split at same
    next rest trimmed => exact .dotted rest (Text.trims_iff.mpr trimmed) same
    next undotted =>
      refine .bare _ (Text.trims_trimChars entry.toList) ?_ same
      intro dotted
      obtain ⟨rest, trimmed⟩ := List.head?_eq_some_iff.mp dotted
      exact undotted rest trimmed

/-- Every name that an entry of the first list spells is spelled by an entry of the second. -/
def Covered (entries others : List String) : Prop :=
  ∀ name, (∃ entry ∈ entries, Spells entry name) → ∃ entry ∈ others, Spells entry name

namespace Covered

variable {entries others : List String}

private theorem append (entries more : List String) : Covered entries (entries ++ more) := by
  rintro name ⟨entry, member, spelled⟩
  exact ⟨entry, List.mem_append_left more member, spelled⟩

private theorem isKnown (covered : Covered entries others) {label : String} (known : isKnown entries label) :
    Domain.isKnown others label := by
  simp only [Domain.isKnown, Bool.or_eq_true, List.any_eq_true, decide_eq_true_eq, ← spells_iff] at known ⊢
  exact known.imp_right (covered (lower label))

private theorem accepts (covered : Covered entries others) {text : String} (accepted : accepts entries text) :
    Domain.accepts others text := by
  unfold Domain.accepts at accepted ⊢
  dsimp only at accepted ⊢
  rw [Bool.and_eq_true] at accepted ⊢
  refine accepted.imp_right fun known => ?_
  split at known
  · cases known
  · rfl
  · exact covered.isKnown known

end Covered

end Domain

open Domain (Covered)

private theorem Url.isValid_of_covered {entries others : List String} (covered : Covered entries others) {url : String}
    (valid : isValid entries url) : isValid others url := by
  unfold isValid at valid ⊢
  split at valid
  · cases valid
  next spaceless =>
    rw [if_neg spaceless]
    split at valid
    · cases valid
    · rfl
    · exact covered.accepts valid

/-- The second list is the first without some of the elements that may go. -/
inductive Drops {α : Type} (mayGo : α → Prop) : List α → List α → Prop where
  | nil : Drops mayGo [] []
  | keep (item : α) {whole kept : List α} (rest : Drops mayGo whole kept) : Drops mayGo (item :: whole) (item :: kept)
  | drop {item : α} {whole kept : List α} (goes : mayGo item) (rest : Drops mayGo whole kept) :
    Drops mayGo (item :: whole) kept

namespace Drops

variable {α β : Type} {mayGo : β → Prop}

theorem refl (whole : List β) : Drops mayGo whole whole := by
  induction whole with
  | nil => exact .nil
  | cons item rest ih => exact .keep item ih

theorem append {first second firstKept secondKept : List β} (dropped : Drops mayGo first firstKept)
    (droppedToo : Drops mayGo second secondKept) : Drops mayGo (first ++ second) (firstKept ++ secondKept) := by
  induction dropped with
  | nil => exact droppedToo
  | keep item _ ih => exact .keep item ih
  | drop goes _ ih => exact .drop goes ih

theorem flatMap (items : List α) {find keep : α → List β} (each : ∀ item, Drops mayGo (find item) (keep item)) :
    Drops mayGo (items.flatMap find) (items.flatMap keep) := by
  induction items with
  | nil => exact .nil
  | cons item rest ih => exact (each item).append ih

theorem filterMap (items : List α) {find keep : α → Option β}
    (each : ∀ item, Drops mayGo (find item).toList (keep item).toList) :
    Drops mayGo (items.filterMap find) (items.filterMap keep) := by
  rw [List.filterMap_eq_flatMap_toList, List.filterMap_eq_flatMap_toList]
  exact flatMap items each

theorem spare {item : β} (goes : mayGo item) {spared sparedToo : Bool} (weaker : spared → sparedToo) :
    Drops mayGo (if spared then [] else [item]) (if sparedToo then [] else [item]) := by
  cases spared with
  | true =>
    rw [weaker rfl]
    exact .nil
  | false =>
    cases sparedToo with
    | true => exact .drop goes .nil
    | false => exact refl _

private theorem sublist {whole kept : List β} (dropped : Drops mayGo whole kept) : kept.Sublist whole := by
  induction dropped with
  | nil => exact List.Sublist.refl []
  | keep item _ ih => exact ih.cons_cons item
  | drop _ _ ih => exact ih.cons _

private theorem antisymm {first second : List β} (dropped : Drops mayGo first second)
    (back : Drops mayGo second first) :
    first = second :=
  back.sublist.eq_of_length_le dropped.sublist.length_le

end Drops

namespace Violation

/-- A url that is not well formed, which is no longer reported once its domain is known. -/
def IsInvalidUrl (violation : Violation) : Prop := ∃ url, violation = .invalidServerUrl url

end Violation

/-- The same configuration with another list of extra domains. -/
def Config.withDomains (config : Config) (domains : List String) : Config := { config with extraDomains := domains }

open Violation (IsInvalidUrl)

section

variable {entries others : List String}

private theorem Server.drops_check (covered : Covered entries others) (config : Config) (server : Server) :
    Drops IsInvalidUrl (server.check (config.withDomains entries)) (server.check (config.withDomains others)) := by
  unfold Server.check
  split
  · apply Drops.spare ⟨server.resolved, rfl⟩
    intro spared
    rw [Bool.or_eq_true] at spared ⊢
    exact spared.imp_right (Url.isValid_of_covered covered)
  · exact Drops.refl _

namespace Pass

private theorem findings_withDomains {pass : Pass} (other : pass ≠ .servers) (document : Document) (info : Info)
    (config : Config) (domains : List String) :
    pass.findings ⟨document, info, config.withDomains domains⟩ = pass.findings ⟨document, info, config⟩ := by
  cases pass with
  | servers => exact absurd rfl other
  | operations =>
    apply Endpoint.checkFrom_of_check
    exact fun _ _ => rfl
  | info | models | naming => rfl

private theorem drops_contribution (covered : Covered entries others) (document : Document) (info : Info)
    (config : Config)
    (pass : Pass) :
    Drops IsInvalidUrl (pass.contribution ⟨document, info, config.withDomains entries⟩)
      (pass.contribution ⟨document, info, config.withDomains others⟩) := by
  have findings : Drops IsInvalidUrl (pass.findings ⟨document, info, config.withDomains entries⟩)
      (pass.findings ⟨document, info, config.withDomains others⟩) := by
    by_cases servers : pass = .servers
    · subst pass
      exact Drops.flatMap document.servers fun server => server.drops_check covered config
    · rw [findings_withDomains servers, findings_withDomains servers]
      exact Drops.refl _
  change Drops _ (if pass.isEnabled config then _ else []) (if pass.isEnabled config then _ else [])
  split
  · exact findings
  · exact .nil

end Pass

/-- The longer list of names leaves the same violations, in the same order, less some urls that are not well formed. -/
theorem Validator.drops_of_covered (covered : Covered entries others) (document : Document) (info : Info)
    (config : Config) :
    Drops IsInvalidUrl (Pass.all.flatMap (·.contribution ⟨document, info, config.withDomains entries⟩))
      (Pass.all.flatMap (·.contribution ⟨document, info, config.withDomains others⟩)) := by
  apply Drops.flatMap
  intro pass
  exact pass.drops_contribution covered document info config

end

open Domain (Spells)

/-- More domains only spare urls that were not well formed, and lists whose entries spell the same names come to the
same violations. -/
theorem validate?_withDomains {document : Document} {info : Info} (present : document.info = some info)
    (config : Config) :
    (∀ domains more, ∃ violations kept,
      ({} : Validator).validate? document (config.withDomains domains) = some violations ∧
      ({} : Validator).validate? document (config.withDomains (domains ++ more)) = some kept ∧
      Drops IsInvalidUrl violations kept) ∧
    ∀ domains others,
      (∀ name, (∃ entry ∈ domains, Spells entry name) ↔ ∃ entry ∈ others, Spells entry name) →
      ({} : Validator).validate? document (config.withDomains domains) =
        ({} : Validator).validate? document (config.withDomains others) := by
  constructor
  · intro domains more
    refine ⟨_, _, Validator.validate?_of_info present _ Pass.all, Validator.validate?_of_info present _ Pass.all, ?_⟩
    exact Validator.drops_of_covered (.append domains more) document info config
  · intro domains others same
    have covered : Covered domains others := fun name => (same name).mp
    have coveredToo : Covered others domains := fun name => (same name).mpr
    -- Each result is the other one with violations dropped, so none is.
    rw [Validator.validate?_of_info present _ Pass.all, Validator.validate?_of_info present _ Pass.all,
      (Validator.drops_of_covered covered document info config).antisymm
        (Validator.drops_of_covered coveredToo document info config)]

/-- A document whose servers have domains that nobody delegates. -/
def Document.inner : Document where
  info := some {}
  servers := [{ url := "http://api.corp" }, { url := "http://api.lan" }]

theorem inner_withDomains : Document.inner.info = some {} ∧
    (∃ violations kept,
      ({} : Validator).validate? .inner (Config.withDomains {} ["corp"]) = some violations ∧
      ({} : Validator).validate? .inner (Config.withDomains {} (["corp"] ++ ["lan"])) = some kept ∧
      Drops IsInvalidUrl violations kept) ∧
    (∀ name, (∃ entry ∈ ["lan", " .CORP\t", "corp"], Spells entry name) ↔
      ∃ entry ∈ ["Corp", ".lan"], Spells entry name) ∧
    ({} : Validator).validate? .inner (Config.withDomains {} ["lan", " .CORP\t", "corp"]) =
      ({} : Validator).validate? .inner (Config.withDomains {} ["Corp", ".lan"]) := by
  obtain ⟨longer, respelled⟩ := @validate?_withDomains .inner _ rfl {}
  have normal : Domain.lower (Domain.bareEntry "lan") = "lan" ∧
      Domain.lower (Domain.bareEntry " .CORP\t") = "corp" ∧ Domain.lower (Domain.bareEntry "corp") = "corp" ∧
      Domain.lower (Domain.bareEntry "Corp") = "corp" ∧ Domain.lower (Domain.bareEntry ".lan") = "lan" := by decide
  have same : ∀ name, (∃ entry ∈ ["lan", " .CORP\t", "corp"], Spells entry name) ↔
      ∃ entry ∈ ["Corp", ".lan"], Spells entry name := by
    intro name
    obtain ⟨lan, spaced, corp, large, dotted⟩ := normal
    simp only [Domain.spells_iff, List.mem_cons, List.not_mem_nil, or_false, exists_eq_or_imp, exists_eq_left, lan,
      spaced, corp, large, dotted, or_self]
    exact or_comm
  exact ⟨rfl, longer ["corp"] ["lan"], same, respelled _ _ same⟩

end ApiStyle
