import ApiStyle.Proofs.SortedSwitches
import Mathlib.Data.List.Induction
import Mathlib.Data.List.Nodup

/-! What a single patch makes of a configuration. Whatever it asks for replaces what was there, and its domains
are added. A patch can be applied exactly if all its names mean something. -/

namespace ApiStyle

theorem eraseDups_snoc (values : List String) (value : String) :
    (values ++ [value]).eraseDups = if value ∈ values then values.eraseDups else values.eraseDups ++ [value] := by
  rw [List.eraseDups_append]
  by_cases present : value ∈ values <;> simp [present, List.removeAll, List.eraseDups_cons]

private theorem eraseDups_eraseDups (values : List String) : values.eraseDups.eraseDups = values.eraseDups := by
  induction values using List.reverseRecOn with
  | nil => rfl
  | append_singleton values value ih =>
    rw [eraseDups_snoc]
    split
    next => exact ih
    next absent => rw [eraseDups_snoc, ih, if_neg (mt List.mem_eraseDups.mp absent)]

theorem eraseDups_append_eraseDups (first second : List String) :
    (first.eraseDups ++ second).eraseDups = (first ++ second).eraseDups := by
  rw [List.eraseDups_append, List.eraseDups_append, eraseDups_eraseDups]
  simp [List.removeAll]

private theorem spelled_once {first second : α → String} (differ : ∀ one other : α, first one = first other ∨
      first one = second other ∨ second one = first other ∨ second one = second other → one = other)
    {one other : α} {text : String} (spelled : text = first one ∨ text = second one)
    (again : text = first other ∨ text = second other) : one = other := by
  refine differ one other ?_
  rcases spelled with spelled | spelled <;> rcases again with again | again
  · exact Or.inl (spelled.symm.trans again)
  · exact Or.inr (Or.inl (spelled.symm.trans again))
  · exact Or.inr (Or.inr (Or.inl (spelled.symm.trans again)))
  · exact Or.inr (Or.inr (Or.inr (spelled.symm.trans again)))

namespace Toggle

/-- A text names a toggle by either of its spellings, with white space around it. -/
def IsSpelled (toggle : Toggle) (text : String) : Prop :=
  Text.trim text = toggle.id ∨ Text.trim text = toggle.snakeId

theorem mem_all (toggle : Toggle) : toggle ∈ all := by cases toggle <;> decide

private theorem spellings_differ : ∀ first ∈ all, ∀ second ∈ all,
    first.id = second.id ∨ first.id = second.snakeId ∨ first.snakeId = second.id ∨ first.snakeId = second.snakeId →
      first = second := by decide +kernel

theorem IsSpelled.unique {first second : Toggle} {text : String} (one : first.IsSpelled text)
    (other : second.IsSpelled text) : first = second :=
  spelled_once (fun one other => spellings_differ one (mem_all one) other (mem_all other)) one other

private theorem ofText?_eq_some {text : String} {toggle : Toggle} :
    ofText? text = some toggle ↔ toggle.IsSpelled text := by
  have tested (toggle : Toggle) : decide (toggle.id = Text.trim text ∨ toggle.snakeId = Text.trim text) = true ↔
      toggle.IsSpelled text := by
    rw [decide_eq_true_iff]
    exact or_congr eq_comm eq_comm
  rw [← tested]
  exact find?_eq_some_iff (mem_all toggle) fun _ _ one other => ((tested _).mp one).unique ((tested _).mp other)

theorem ofSetting_eq_ok {text : String} {toggle : Toggle} : ofSetting text = .ok toggle ↔ toggle.IsSpelled text := by
  rw [← ofText?_eq_some, ofSetting]
  cases ofText? text <;> simp

end Toggle

namespace Convention

def IsSpelled (convention : Convention) (text : String) : Prop :=
  Text.trim text = convention.designation ∨ Text.trim text = convention.alternative

theorem mem_all (convention : Convention) : convention ∈ all := by cases convention <;> decide

private theorem spellings_differ : ∀ first ∈ all, ∀ second ∈ all,
    first.designation = second.designation ∨ first.designation = second.alternative ∨
      first.alternative = second.designation ∨ first.alternative = second.alternative → first = second := by
  decide +kernel

theorem IsSpelled.unique {first second : Convention} {text : String} (one : first.IsSpelled text)
    (other : second.IsSpelled text) : first = second :=
  spelled_once (fun one other => spellings_differ one (mem_all one) other (mem_all other)) one other

private theorem ofText?_eq_some {text : String} {convention : Convention} :
    ofText? text = some convention ↔ convention.IsSpelled text := by
  have tested (convention : Convention) :
      decide (convention.alternative = Text.trim text ∨ convention.designation = Text.trim text) = true ↔
        convention.IsSpelled text := by
    rw [decide_eq_true_iff, or_comm]
    exact or_congr eq_comm eq_comm
  rw [← tested]
  exact find?_eq_some_iff (mem_all convention) fun _ _ one other => ((tested _).mp one).unique ((tested _).mp other)

theorem ofSetting_eq_ok {text : String} {convention : Convention} :
    ofSetting text = .ok convention ↔ convention.IsSpelled text := by
  rw [← ofText?_eq_some, ofSetting]
  cases ofText? text <;> simp

/-- What a text that may be missing asks for. -/
def IsGiven (convention : Convention) (text : Option String) : Prop :=
  ∃ given, text = some given ∧ convention.IsSpelled given

end Convention

theorem Convention.IsGiven.unique {first second : Convention} {text : Option String} (one : first.IsGiven text)
    (other : second.IsGiven text) : first = second := by
  obtain ⟨given, rfl, one⟩ := one
  obtain ⟨_, ⟨⟩, other⟩ := other
  exact one.unique other

/-- The new value is one that was asked for, or the old one if none was. -/
def Updates (asked : α → Prop) (before after : α) : Prop :=
  asked after ∨ after = before ∧ ∀ value, ¬ asked value

/-- A text that may be missing names a convention if it is there. -/
def NamesConvention (text : Option String) : Prop :=
  ∀ given, text = some given → ∃ convention : Convention, convention.IsSpelled given

/-- Of the switches for a toggle the one with the greatest name tells. Names are in the order of their
characters, which is that of their bytes. -/
def Switched (switches : List (String × Bool)) (toggle : Toggle) (on : Bool) : Prop :=
  ∃ name, (name, on) ∈ switches ∧ toggle.IsSpelled name ∧
    ∀ other ∈ switches, toggle.IsSpelled other.1 → other.1 ≤ name

private theorem Switched.unique {switches : List (String × Bool)} (sorted : Table.IsSorted switches) {toggle : Toggle}
    {on off : Bool} (one : Switched switches toggle on) (other : Switched switches toggle off) : on = off := by
  obtain ⟨name, member, spelled, greatest⟩ := one
  obtain ⟨again, present, spelledAgain, greatestAgain⟩ := other
  obtain rfl : name = again := le_antisymm (greatestAgain _ member spelled) (greatest _ present spelledAgain)
  have distinct : (switches.map Prod.fst).Nodup := sorted.imp fun less => ne_of_lt less
  exact congrArg Prod.snd (List.inj_on_of_nodup_map distinct member present rfl)

theorem Switched.updates {switches : List (String × Bool)} {toggle : Toggle} {before after : Bool}
    (changed : Switched switches toggle after ∨
      after = before ∧ ∀ switch ∈ switches, ¬ toggle.IsSpelled switch.1) :
    Updates (Switched switches toggle) before after := by
  rcases changed with switched | ⟨same, unspelled⟩
  · exact Or.inl switched
  · refine Or.inr ⟨same, ?_⟩
    rintro on ⟨name, member, spelled, _⟩
    exact unspelled _ member spelled

private theorem Convention.mapM_ofSetting {text : Option String} {found : Option Convention}
    (read : text.mapM Convention.ofSetting = .ok found) :
    NamesConvention text ∧ ∀ before, Updates (Convention.IsGiven · text) before (found.getD before) := by
  cases text with
  | none =>
    cases read
    refine ⟨?_, fun before => Or.inr ⟨rfl, ?_⟩⟩
    · rintro _ ⟨⟩
    · rintro _ ⟨_, ⟨⟩, _⟩
  | some given =>
    simp only [Option.mapM_some, map_eq_ok] at read
    obtain ⟨convention, named, rfl⟩ := read
    have spelled := ofSetting_eq_ok.mp named
    refine ⟨?_, fun before => Or.inl ⟨given, rfl, spelled⟩⟩
    rintro _ ⟨⟩
    exact ⟨convention, spelled⟩

private theorem Convention.mapM_ofSetting_ok {text : Option String} (named : NamesConvention text) :
    ∃ found, text.mapM Convention.ofSetting = .ok found := by
  cases text with
  | none => exact ⟨none, rfl⟩
  | some given =>
    obtain ⟨convention, spelled⟩ := named given rfl
    refine ⟨some convention, ?_⟩
    rw [Option.mapM_some, ofSetting_eq_ok.mpr spelled]
    rfl

namespace Config

theorem setConventions_eq_ok {before after : Config} {path parameter property : Option String}
    (changed : before.setConventions path parameter property = .ok after) :
    (NamesConvention path ∧ NamesConvention parameter ∧ NamesConvention property) ∧
      after.enabled = before.enabled ∧ after.extraDomains = before.extraDomains ∧
      Updates (Convention.IsGiven · path) before.pathNaming after.pathNaming ∧
      Updates (Convention.IsGiven · parameter) before.parameterNaming after.parameterNaming ∧
      Updates (Convention.IsGiven · property) before.propertyNaming after.propertyNaming := by
  obtain ⟨newPath, readPath, changed⟩ := bind_eq_ok.mp changed
  obtain ⟨newParameter, readParameter, changed⟩ := bind_eq_ok.mp changed
  obtain ⟨newProperty, readProperty, changed⟩ := bind_eq_ok.mp changed
  obtain ⟨pathNamed, pathUpdates⟩ := Convention.mapM_ofSetting readPath
  obtain ⟨parameterNamed, parameterUpdates⟩ := Convention.mapM_ofSetting readParameter
  obtain ⟨propertyNamed, propertyUpdates⟩ := Convention.mapM_ofSetting readProperty
  obtain rfl := Except.ok.inj changed
  exact ⟨⟨pathNamed, parameterNamed, propertyNamed⟩, rfl, rfl, pathUpdates _, parameterUpdates _,
    propertyUpdates _⟩

theorem setConventions_ok (config : Config) {path parameter property : Option String} (pathNamed : NamesConvention path)
    (parameterNamed : NamesConvention parameter) (propertyNamed : NamesConvention property) :
    ∃ after, config.setConventions path parameter property = .ok after := by
  obtain ⟨newPath, readPath⟩ := Convention.mapM_ofSetting_ok pathNamed
  obtain ⟨newParameter, readParameter⟩ := Convention.mapM_ofSetting_ok parameterNamed
  obtain ⟨newProperty, readProperty⟩ := Convention.mapM_ofSetting_ok propertyNamed
  unfold setConventions
  rw [readPath, readParameter, readProperty]
  exact ⟨_, rfl⟩

/-- Later switches go before earlier ones, so that in a sorted list the greatest name for a toggle tells. -/
theorem foldlM_setNamed {switches : List (String × Bool)} (sorted : Table.IsSorted switches) {before after : Config}
    (changed : switches.foldlM setNamed before = .ok after) :
    after = { before with enabled := after.enabled } ∧
      (∀ switch ∈ switches, ∃ toggle : Toggle, toggle.IsSpelled switch.1) ∧
      ∀ toggle : Toggle, Switched switches toggle (after.enabled toggle) ∨
        after.enabled toggle = before.enabled toggle ∧ ∀ switch ∈ switches, ¬ toggle.IsSpelled switch.1 := by
  induction switches generalizing before with
  | nil =>
    cases changed
    exact ⟨rfl, by simp, fun toggle => Or.inr ⟨rfl, by simp⟩⟩
  | cons switch rest ih =>
    obtain ⟨name, on⟩ := switch
    obtain ⟨less, sorted⟩ := List.pairwise_cons.mp sorted
    obtain ⟨between, set, changed⟩ := bind_eq_ok.mp changed
    obtain ⟨named, found, set⟩ := bind_eq_ok.mp set
    obtain rfl := Except.ok.inj set
    have spelled := Toggle.ofSetting_eq_ok.mp found
    obtain ⟨kept, meaningful, switched⟩ := ih sorted changed
    refine ⟨kept, List.forall_mem_cons.mpr ⟨⟨named, spelled⟩, meaningful⟩, fun toggle => ?_⟩
    rcases switched toggle with ⟨last, member, names, greatest⟩ | ⟨same, unspelled⟩
    · refine Or.inl ⟨last, List.mem_cons_of_mem _ member, names, List.forall_mem_cons.mpr ⟨fun _ => ?_, greatest⟩⟩
      exact le_of_lt (less last (List.mem_map_of_mem member))
    rw [same, enabled_set]
    split
    next is =>
      subst is
      refine Or.inl ⟨name, List.mem_cons_self, spelled, List.forall_mem_cons.mpr ⟨fun _ => le_refl _, ?_⟩⟩
      exact fun other member names => absurd names (unspelled other member)
    next isNot =>
      exact Or.inr ⟨rfl, List.forall_mem_cons.mpr ⟨fun names => isNot (names.unique spelled), unspelled⟩⟩

private theorem foldlM_setNamed_ok {switches : List (String × Bool)}
    (meaningful : ∀ switch ∈ switches, ∃ toggle : Toggle, toggle.IsSpelled switch.1) (before : Config) :
    ∃ after, switches.foldlM setNamed before = .ok after := by
  induction switches generalizing before with
  | nil => exact ⟨before, rfl⟩
  | cons switch rest ih =>
    obtain ⟨⟨toggle, spelled⟩, meaningful⟩ := List.forall_mem_cons.mp meaningful
    obtain ⟨after, changed⟩ := ih meaningful (before.set toggle switch.2)
    refine ⟨after, bind_eq_ok.mpr ⟨before.set toggle switch.2, ?_, changed⟩⟩
    rw [setNamed, Toggle.ofSetting_eq_ok.mpr spelled]
    rfl

private theorem firsts_eq (seen values : List String) : firsts seen values = (values.filter (· ∉ seen)).eraseDups := by
  induction values generalizing seen with
  | nil => rfl
  | cons value values ih =>
    rw [firsts, ih, ih, List.filter_cons]
    by_cases present : value ∈ seen
    · simp [present]
    · simp [present, List.eraseDups_cons, List.filter_filter, beq_eq_decide]

/-- What is merged in parts is as if it were merged at once. -/
theorem mergeUnique_eraseDups (listed values : List String) :
    mergeUnique listed.eraseDups values = (listed ++ values).eraseDups := by
  have all : (listed.eraseDups ++ values).filter (· ∉ []) = listed.eraseDups ++ values := by simp
  rw [mergeUnique, firsts_eq, all, eraseDups_append_eraseDups]

end Config

namespace Patch

/-- What a patch says of a toggle. Its section on names goes before its switches. -/
inductive Sets (patch : Patch) : Toggle → Bool → Prop
  | naming {on} : patch.naming.ignoreCustomHeader = some on → Sets patch .ignoreCustomHeader on
  | rules {toggle on} : (toggle = .ignoreCustomHeader → patch.naming.ignoreCustomHeader = none) →
      Switched patch.switches toggle on → Sets patch toggle on

theorem Sets.unique {patch : Patch} (sorted : Table.IsSorted patch.switches) {toggle : Toggle} {on off : Bool}
    (one : patch.Sets toggle on) (other : patch.Sets toggle off) : on = off := by
  cases one with
  | naming found =>
    cases other with
    | naming again => exact Option.some.inj (found.symm.trans again)
    | rules silent _ => simp [silent rfl] at found
  | rules silent switched =>
    cases other with
    | naming again => simp [silent rfl] at again
    | rules _ again => exact switched.unique sorted again

/-- Every switch is for a toggle, and every convention is one that there is. -/
structure IsMeaningful (patch : Patch) : Prop where
  switches : ∀ switch ∈ patch.switches, ∃ toggle : Toggle, toggle.IsSpelled switch.1
  path : NamesConvention patch.naming.path
  parameter : NamesConvention patch.naming.parameter
  property : NamesConvention patch.naming.property

/-- What a patch makes of a configuration. -/
structure Revises (patch : Patch) (before after : Config) : Prop where
  enabled : ∀ toggle, Updates (patch.Sets toggle) (before.enabled toggle) (after.enabled toggle)
  pathNaming : Updates (Convention.IsGiven · patch.naming.path) before.pathNaming after.pathNaming
  parameterNaming : Updates (Convention.IsGiven · patch.naming.parameter) before.parameterNaming after.parameterNaming
  propertyNaming : Updates (Convention.IsGiven · patch.naming.property) before.propertyNaming after.propertyNaming
  extraDomains : after.extraDomains = Config.mergeUnique before.extraDomains patch.domains

private theorem updates_enabled {patch : Patch} {before switched : Config}
    (changed : ∀ toggle, Updates (Switched patch.switches toggle) (before.enabled toggle) (switched.enabled toggle))
    (toggle : Toggle) : Updates (patch.Sets toggle) (before.enabled toggle)
      (((patch.naming.ignoreCustomHeader.map (switched.set .ignoreCustomHeader)).getD switched).enabled toggle) := by
  cases ignored : patch.naming.ignoreCustomHeader with
  | none =>
    rcases changed toggle with found | ⟨same, silent⟩
    · exact Or.inl (.rules (fun _ => ignored) found)
    refine Or.inr ⟨same, fun on sets => ?_⟩
    cases sets with
    | naming found => simp [ignored] at found
    | rules _ found => exact silent on found
  | some on =>
    rw [Option.map_some, Option.getD_some, Config.enabled_set]
    split
    next is =>
      subst is
      exact Or.inl (.naming ignored)
    next isNot =>
      rcases changed toggle with found | ⟨same, silent⟩
      · exact Or.inl (.rules (fun is => absurd is isNot) found)
      refine Or.inr ⟨same, fun on sets => ?_⟩
      cases sets with
      | naming => exact isNot rfl
      | rules _ found => exact silent on found

theorem revises_of_apply {patch : Patch} (sorted : Table.IsSorted patch.switches) {before after : Config}
    (changed : patch.apply before = .ok after) : patch.IsMeaningful ∧ patch.Revises before after := by
  obtain ⟨switched, switching, changed⟩ := bind_eq_ok.mp changed
  obtain ⟨named, naming, changed⟩ := bind_eq_ok.mp changed
  obtain rfl := Except.ok.inj changed
  obtain ⟨kept, switches, enabled⟩ := Config.foldlM_setNamed sorted switching
  obtain ⟨⟨path, parameter, property⟩, sameEnabled, sameDomains, pathNaming, parameterNaming, propertyNaming⟩ :=
    Config.setConventions_eq_ok naming
  have unset : (patch.naming.ignoreCustomHeader.map (named.set .ignoreCustomHeader)).getD named =
      { named with
        enabled := ((patch.naming.ignoreCustomHeader.map (named.set .ignoreCustomHeader)).getD named).enabled } := by
    cases patch.naming.ignoreCustomHeader <;> rfl
  rw [kept] at sameDomains pathNaming parameterNaming propertyNaming
  refine ⟨⟨switches, path, parameter, property⟩, ⟨?_, ?_, ?_, ?_, ?_⟩⟩
  · exact updates_enabled (sameEnabled ▸ fun toggle => Switched.updates (enabled toggle))
  · rw [unset]
    exact pathNaming
  · rw [unset]
    exact parameterNaming
  · rw [unset]
    exact propertyNaming
  · rw [unset, ← sameDomains]
    rfl

theorem apply_ok {patch : Patch} (meaningful : patch.IsMeaningful) (before : Config) :
    ∃ after, patch.apply before = .ok after := by
  obtain ⟨switched, switching⟩ := Config.foldlM_setNamed_ok meaningful.switches before
  obtain ⟨named, naming⟩ := switched.setConventions_ok meaningful.path meaningful.parameter meaningful.property
  refine ⟨_, bind_eq_ok.mpr ⟨switched, switching, bind_eq_ok.mpr ⟨named, naming, rfl⟩⟩⟩

end Patch

end ApiStyle
