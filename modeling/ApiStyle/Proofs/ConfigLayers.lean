import ApiStyle.Proofs.Patches
import ApiStyle.Rules.Layers
import Mathlib.Data.List.Induction

/-! Which layer of the configuration every setting comes from. Files are layers in order, later ones replace
what earlier ones say and add to their domains, and variables of the environment come last. The main statement
tells when settings can be loaded at all, and of loaded ones which layer each of them is from. -/

namespace ApiStyle

/-- The value that the last of the patches to ask for one asks for, or the default if none does. -/
def LastAsked (asks : Patch → α → Prop) (default : α) (patches : List Patch) (value : α) : Prop :=
  (∃ before patch after, patches = before ++ patch :: after ∧ asks patch value ∧
    ∀ later ∈ after, ∀ other, ¬ asks later other) ∨
  value = default ∧ ∀ patch ∈ patches, ∀ other, ¬ asks patch other

private theorem LastAsked.snoc {asks : Patch → α → Prop} {default before after : α} {patches : List Patch}
    (last : LastAsked asks default patches before) {patch : Patch} (updates : Updates (asks patch) before after) :
    LastAsked asks default (patches ++ [patch]) after := by
  rcases updates with asked | ⟨rfl, silent⟩
  · exact Or.inl ⟨patches, patch, [], rfl, asked, List.forall_mem_nil _⟩
  have silent : ∀ later ∈ [patch], ∀ other, ¬ asks later other := by simpa using silent
  rcases last with ⟨first, winner, rest, rfl, asked, quiet⟩ | ⟨same, quiet⟩
  · refine Or.inl ⟨first, winner, rest ++ [patch], by simp, asked, ?_⟩
    exact List.forall_mem_append.mpr ⟨quiet, silent⟩
  · exact Or.inr ⟨same, List.forall_mem_append.mpr ⟨quiet, silent⟩⟩

private theorem LastAsked.of_snoc {asks : Patch → α → Prop} {default value : α} {patches : List Patch} {patch : Patch}
    (last : LastAsked asks default (patches ++ [patch]) value) :
    asks patch value ∨ (∀ other, ¬ asks patch other) ∧ LastAsked asks default patches value := by
  rcases last with ⟨before, winner, after, same, asked, quiet⟩ | ⟨same, quiet⟩
  · rcases List.eq_nil_or_concat after with rfl | ⟨between, final, rfl⟩
    · obtain ⟨_, rfl⟩ := List.append_singleton_inj.mp same
      exact Or.inl asked
    · rw [List.concat_eq_append, ← List.cons_append, ← List.append_assoc] at same
      obtain ⟨rfl, rfl⟩ := List.append_singleton_inj.mp same
      rw [List.concat_eq_append] at quiet
      obtain ⟨quiet, silent⟩ := List.forall_mem_append.mp quiet
      exact Or.inr ⟨silent patch List.mem_cons_self, Or.inl ⟨before, winner, between, rfl, asked, quiet⟩⟩
  · obtain ⟨quiet, silent⟩ := List.forall_mem_append.mp quiet
    exact Or.inr ⟨silent patch List.mem_cons_self, Or.inr ⟨same, quiet⟩⟩

private theorem LastAsked.unique {asks : Patch → α → Prop} {default first second : α} {patches : List Patch}
    (functional : ∀ patch ∈ patches, ∀ one other, asks patch one → asks patch other → one = other)
    (one : LastAsked asks default patches first) (other : LastAsked asks default patches second) : first = second := by
  induction patches using List.reverseRecOn with
  | nil =>
    rcases one with ⟨before, _, _, impossible, _⟩ | ⟨rfl, _⟩
    · simp at impossible
    rcases other with ⟨before, _, _, impossible, _⟩ | ⟨rfl, _⟩
    · simp at impossible
    rfl
  | append_singleton patches patch ih =>
    obtain ⟨functional, last⟩ := List.forall_mem_append.mp functional
    rcases one.of_snoc with asked | ⟨silent, one⟩ <;> rcases other.of_snoc with again | ⟨quiet, other⟩
    · exact last patch List.mem_cons_self first second asked again
    · exact absurd asked (quiet first)
    · exact absurd again (silent second)
    · exact ih functional one other

/-- A variable settles a value if it is set; else it is what holds below. -/
def Settled (setting : Option String) (means : String → α → Prop) (below : α → Prop) (value : α) : Prop :=
  match setting with
  | some text => means text value
  | none => below value

private theorem Settled.of_updates {text : Option String} (named : NamesConvention text) {below : Convention → Prop}
    {before after : Convention} (holds : below before) (updates : Updates (Convention.IsGiven · text) before after) :
    Settled text (fun text convention => convention.IsSpelled text) below after := by
  cases text with
  | none =>
    rcases updates with ⟨_, impossible, _⟩ | ⟨rfl, _⟩
    · cases impossible
    · exact holds
  | some text =>
    rcases updates with ⟨_, ⟨⟩, spelled⟩ | ⟨_, silent⟩
    · exact spelled
    · obtain ⟨convention, spelled⟩ := named text rfl
      exact absurd ⟨text, rfl, spelled⟩ (silent convention)

private theorem Settled.unique {text : Option String} {means : String → α → Prop} {below : α → Prop} {first second : α}
    (meansOne : ∀ given one other, means given one → means given other → one = other)
    (belowOne : ∀ one other, below one → below other → one = other)
    (one : Settled text means below first) (other : Settled text means below second) : first = second := by
  cases text with
  | none => exact belowOne first second one other
  | some given => exact meansOne given first second one other

namespace Settings

/-- A file that is there, with what it says. -/
def HasPatch (surroundings : Surroundings) (path : Path) (patch : Patch) : Prop :=
  ∃ text, surroundings.look path = some (.ok text) ∧ Patch.ofToml text = .ok patch

theorem HasPatch.unique {surroundings : Surroundings} {path : Path} {first second : Patch}
    (one : HasPatch surroundings path first) (other : HasPatch surroundings path second) : first = second := by
  obtain ⟨text, looked, read⟩ := one
  obtain ⟨again, lookedAgain, readAgain⟩ := other
  obtain rfl : text = again := by simpa [looked] using lookedAgain
  exact Except.ok.inj (read.symm.trans readAgain)

theorem HasPatch.sorted {surroundings : Surroundings} {path : Path} {patch : Patch}
    (has : HasPatch surroundings path patch) : Table.IsSorted patch.switches := by
  obtain ⟨text, _, read⟩ := has
  exact Patch.sorted_of_ofToml read

private theorem HasPatch.not_missing {surroundings : Surroundings} {path : Path} {patch : Patch}
    (has : HasPatch surroundings path patch) : surroundings.look path ≠ none := by
  obtain ⟨text, looked, _⟩ := has
  simp [looked]

/-- The layers of those files that are there. -/
inductive Reads (surroundings : Surroundings) : List Path → List (Path × Patch) → Prop
  | nil : Reads surroundings [] []
  | missing {path paths layers} : surroundings.look path = none → Reads surroundings paths layers →
      Reads surroundings (path :: paths) layers
  | present {path paths patch layers} : HasPatch surroundings path patch → Reads surroundings paths layers →
      Reads surroundings (path :: paths) ((path, patch) :: layers)

/-- The layers of a run. A file that is named has to be there and is the only one. -/
inductive Layered (surroundings : Surroundings) (project : Path) : Option Path → List (Path × Patch) → Prop
  | explicit {path patch} : HasPatch surroundings path patch → Layered surroundings project (some path) [(path, patch)]
  | environment {text patch} : surroundings.environment fileVariable = some text →
      HasPatch surroundings ⟨text⟩ patch → Layered surroundings project none [(⟨text⟩, patch)]
  | standing {layers} : surroundings.environment fileVariable = none →
      Reads surroundings ((surroundings.settings.map (·.join userFile)).toList ++ [project.join projectFile]) layers →
      Layered surroundings project none layers

private theorem Reads.unique {surroundings : Surroundings} {paths : List Path} {first second : List (Path × Patch)}
    (one : Reads surroundings paths first) (other : Reads surroundings paths second) : first = second := by
  induction one generalizing second with
  | nil =>
    cases other
    rfl
  | missing absent _ ih =>
    cases other with
    | missing _ other => exact ih other
    | present has _ => exact absurd absent has.not_missing
  | present has _ ih =>
    cases other with
    | missing absent _ => exact absurd absent has.not_missing
    | present again other => rw [has.unique again, ih other]

private theorem Reads.sorted {surroundings : Surroundings} {paths : List Path} {layers : List (Path × Patch)}
    (reads : Reads surroundings paths layers) : ∀ layer ∈ layers, Table.IsSorted layer.2.switches := by
  induction reads with
  | nil => exact List.forall_mem_nil _
  | missing _ _ ih => exact ih
  | present has _ ih => exact List.forall_mem_cons.mpr ⟨has.sorted, ih⟩

private theorem Layered.unique {surroundings : Surroundings} {project : Path} {explicit : Option Path}
    {first second : List (Path × Patch)} (one : Layered surroundings project explicit first)
    (other : Layered surroundings project explicit second) : first = second := by
  cases one with
  | explicit has =>
    cases other with
    | explicit again => rw [has.unique again]
  | environment named has =>
    cases other with
    | environment namedAgain again =>
      obtain rfl := Option.some.inj (named.symm.trans namedAgain)
      rw [has.unique again]
    | standing unnamed _ => simp [named] at unnamed
  | standing unnamed reads =>
    cases other with
    | environment named _ => simp [named] at unnamed
    | standing _ again => exact reads.unique again

private theorem Layered.sorted {surroundings : Surroundings} {project : Path} {explicit : Option Path}
    {layers : List (Path × Patch)} (layered : Layered surroundings project explicit layers) :
    ∀ layer ∈ layers, Table.IsSorted layer.2.switches := by
  cases layered with
  | explicit has => exact List.forall_mem_singleton.mpr has.sorted
  | environment _ has => exact List.forall_mem_singleton.mpr has.sorted
  | standing _ reads => exact reads.sorted

/-- What the files say together, later ones on top. -/
structure Accumulated (layers : List (Path × Patch)) (settings : Settings) : Prop where
  sources : settings.sources = layers.map Prod.fst
  enabled : ∀ toggle, LastAsked (·.Sets toggle) true (layers.map Prod.snd) (settings.config.enabled toggle)
  pathNaming : LastAsked (fun patch convention => convention.IsGiven patch.naming.path) .hyphenCase
    (layers.map Prod.snd) settings.config.pathNaming
  parameterNaming : LastAsked (fun patch convention => convention.IsGiven patch.naming.parameter) .camelCase
    (layers.map Prod.snd) settings.config.parameterNaming
  propertyNaming : LastAsked (fun patch convention => convention.IsGiven patch.naming.property) .camelCase
    (layers.map Prod.snd) settings.config.propertyNaming
  extraDomains : settings.config.extraDomains = (layers.flatMap (·.2.domains)).eraseDups

theorem Accumulated.none : Accumulated [] {} where
  sources := rfl
  enabled _ := Or.inr ⟨rfl, List.forall_mem_nil _⟩
  pathNaming := Or.inr ⟨rfl, List.forall_mem_nil _⟩
  parameterNaming := Or.inr ⟨rfl, List.forall_mem_nil _⟩
  propertyNaming := Or.inr ⟨rfl, List.forall_mem_nil _⟩
  extraDomains := rfl

theorem Accumulated.addPatch {layers : List (Path × Patch)} {settings after : Settings}
    (accumulated : Accumulated layers settings) {path : Path} {patch : Patch} (sorted : Table.IsSorted patch.switches)
    (added : settings.addPatch path patch = .ok after) :
    patch.IsMeaningful ∧ Accumulated (layers ++ [(path, patch)]) after := by
  obtain ⟨config, changed, added⟩ := bind_eq_ok.mp added
  obtain rfl := Except.ok.inj added
  obtain ⟨meaningful, revises⟩ := Patch.revises_of_apply sorted (mapError_eq_ok.mp changed)
  refine ⟨meaningful, ?_, ?_, ?_, ?_, ?_, ?_⟩
  · rw [accumulated.sources, List.map_append, List.map_singleton]
  · intro toggle
    rw [List.map_append]
    exact (accumulated.enabled toggle).snoc (revises.enabled toggle)
  · rw [List.map_append]
    exact accumulated.pathNaming.snoc revises.pathNaming
  · rw [List.map_append]
    exact accumulated.parameterNaming.snoc revises.parameterNaming
  · rw [List.map_append]
    exact accumulated.propertyNaming.snoc revises.propertyNaming
  · rw [revises.extraDomains, accumulated.extraDomains, Config.mergeUnique_eraseDups, List.flatMap_append,
      List.flatMap_singleton]

theorem addPatch_ok {patch : Patch} (meaningful : patch.IsMeaningful) (settings : Settings) (path : Path) :
    ∃ after, settings.addPatch path patch = .ok after := by
  obtain ⟨config, changed⟩ := Patch.apply_ok meaningful settings.config
  exact ⟨_, bind_eq_ok.mpr ⟨config, mapError_eq_ok.mpr changed, rfl⟩⟩

theorem readPatch_eq_some {surroundings : Surroundings} {path : Path} {patch : Patch} :
    readPatch surroundings path = .ok (some patch) ↔ HasPatch surroundings path patch := by
  unfold readPatch HasPatch
  rcases surroundings.look path with _ | ⟨reason | text⟩
  · simp
  · simp
  · cases read : Patch.ofToml text <;> simp [read, Except.map, Except.mapError]

theorem readPatch_eq_none {surroundings : Surroundings} {path : Path} :
    readPatch surroundings path = .ok none ↔ surroundings.look path = none := by
  unfold readPatch
  rcases surroundings.look path with _ | ⟨reason | text⟩
  · simp
  · simp
  · cases read : Patch.ofToml text <;> simp [read, Except.map, Except.mapError]

theorem Accumulated.addFiles {surroundings : Surroundings} {paths : List Path} {layers : List (Path × Patch)}
    {settings after : Settings} (accumulated : Accumulated layers settings)
    (added : paths.foldlM (addFile surroundings) settings = .ok after) :
    ∃ more, Reads surroundings paths more ∧ (∀ layer ∈ more, layer.2.IsMeaningful) ∧
      Accumulated (layers ++ more) after := by
  induction paths generalizing layers settings with
  | nil =>
    cases added
    exact ⟨[], .nil, List.forall_mem_nil _, (List.append_nil layers).symm ▸ accumulated⟩
  | cons path paths ih =>
    obtain ⟨between, first, rest⟩ := bind_eq_ok.mp added
    obtain ⟨found, read, first⟩ := bind_eq_ok.mp first
    cases found with
    | none =>
      obtain rfl := Except.ok.inj first
      obtain ⟨more, reads, meaningful, accumulated⟩ := ih accumulated rest
      exact ⟨more, .missing (readPatch_eq_none.mp read) reads, meaningful, accumulated⟩
    | some patch =>
      have has := readPatch_eq_some.mp read
      obtain ⟨patchMeaningful, accumulated⟩ := accumulated.addPatch has.sorted first
      obtain ⟨more, reads, meaningful, accumulated⟩ := ih accumulated rest
      refine ⟨(path, patch) :: more, .present has reads, List.forall_mem_cons.mpr ⟨patchMeaningful, meaningful⟩, ?_⟩
      rw [List.append_cons]
      exact accumulated

private theorem addFiles_ok {surroundings : Surroundings} {paths : List Path} {layers : List (Path × Patch)}
    (reads : Reads surroundings paths layers) (meaningful : ∀ layer ∈ layers, layer.2.IsMeaningful)
    (settings : Settings) :
    ∃ after, paths.foldlM (addFile surroundings) settings = .ok after := by
  induction reads generalizing settings with
  | nil => exact ⟨settings, rfl⟩
  | missing missing _ ih =>
    obtain ⟨after, added⟩ := ih meaningful settings
    have unchanged : addFile surroundings settings _ = .ok settings :=
      bind_eq_ok.mpr ⟨none, readPatch_eq_none.mpr missing, rfl⟩
    exact ⟨after, bind_eq_ok.mpr ⟨settings, unchanged, added⟩⟩
  | present has _ ih =>
    obtain ⟨patchMeaningful, meaningful⟩ := List.forall_mem_cons.mp meaningful
    obtain ⟨between, first⟩ := addPatch_ok patchMeaningful settings _
    obtain ⟨after, added⟩ := ih meaningful between
    exact ⟨after, bind_eq_ok.mpr ⟨between, bind_eq_ok.mpr ⟨_, readPatch_eq_some.mpr has, first⟩, added⟩⟩

private theorem Accumulated.ofNamed {surroundings : Surroundings} {path project : Path} {settings : Settings}
    (read : ofFiles surroundings (some path) project = .ok settings) :
    ∃ patch, HasPatch surroundings path patch ∧ patch.IsMeaningful ∧ Accumulated [(path, patch)] settings := by
  obtain ⟨found, looked, read⟩ := bind_eq_ok.mp read
  cases found with
  | none => cases read
  | some patch =>
    have has := readPatch_eq_some.mp (mapError_eq_ok.mp looked)
    exact ⟨patch, has, Accumulated.none.addPatch has.sorted (mapError_eq_ok.mp read)⟩

private theorem ofNamed_ok {surroundings : Surroundings} {path : Path} {patch : Patch}
    (has : HasPatch surroundings path patch)
    (meaningful : patch.IsMeaningful) (project : Path) :
    ∃ settings, ofFiles surroundings (some path) project = .ok settings := by
  obtain ⟨settings, added⟩ := addPatch_ok meaningful {} path
  have looked := readPatch_eq_some.mpr has
  exact ⟨settings, bind_eq_ok.mpr ⟨some patch, mapError_eq_ok.mpr looked, mapError_eq_ok.mpr added⟩⟩

private theorem Accumulated.ofFiles {surroundings : Surroundings} {explicit : Option Path} {project : Path}
    {settings : Settings}
    (read : ofFiles surroundings (namedFile surroundings.environment explicit) project = .ok settings) :
    ∃ layers, Layered surroundings project explicit layers ∧ (∀ layer ∈ layers, layer.2.IsMeaningful) ∧
      Accumulated layers settings := by
  cases explicit with
  | some path =>
    obtain ⟨patch, has, meaningful, accumulated⟩ := Accumulated.ofNamed read
    exact ⟨_, .explicit has, List.forall_mem_singleton.mpr meaningful, accumulated⟩
  | none =>
    cases named : surroundings.environment fileVariable with
    | some text =>
      rw [namedFile, named] at read
      obtain ⟨patch, has, meaningful, accumulated⟩ := Accumulated.ofNamed read
      exact ⟨_, .environment named has, List.forall_mem_singleton.mpr meaningful, accumulated⟩
    | none =>
      rw [namedFile, named] at read
      obtain ⟨layers, reads, meaningful, accumulated⟩ := Accumulated.none.addFiles (mapError_eq_ok.mp read)
      exact ⟨layers, .standing named reads, meaningful, accumulated⟩

private theorem ofFiles_ok {surroundings : Surroundings} {explicit : Option Path} {project : Path}
    {layers : List (Path × Patch)} (layered : Layered surroundings project explicit layers)
    (meaningful : ∀ layer ∈ layers, layer.2.IsMeaningful) :
    ∃ settings, Settings.ofFiles surroundings (namedFile surroundings.environment explicit) project = .ok settings := by
  cases layered with
  | explicit has => exact ofNamed_ok has (meaningful _ List.mem_cons_self) project
  | environment named has =>
    rw [namedFile, named]
    exact ofNamed_ok has (meaningful _ List.mem_cons_self) project
  | standing named reads =>
    rw [namedFile, named]
    obtain ⟨settings, added⟩ := addFiles_ok reads meaningful {}
    exact ⟨settings, mapError_eq_ok.mpr added⟩

private theorem overrideToggle_eq (environment : String → Option String) (config : Config) (toggle : Toggle) :
    overrideToggle environment config toggle =
      { config with
        enabled := fun other =>
          if other = toggle then ((environment other.variableName).map isTruthy).getD (config.enabled other)
          else config.enabled other } := by
  cases said : environment toggle.variableName with
  | none =>
    rw [overrideToggle, said]
    refine congrArg (fun enabled => { config with enabled }) (funext fun other => ?_)
    split
    next is => rw [is, said, Option.map_none, Option.getD_none]
    next => rfl
  | some text =>
    rw [overrideToggle, said]
    refine congrArg (fun enabled => { config with enabled }) (funext fun other => ?_)
    split
    next is => rw [is, said, Option.map_some, Option.getD_some]
    next => rfl

private theorem foldl_overrideToggle (environment : String → Option String) (toggles : List Toggle) (config : Config) :
    toggles.foldl (overrideToggle environment) config =
      { config with
        enabled := fun toggle =>
          if toggle ∈ toggles then ((environment toggle.variableName).map isTruthy).getD (config.enabled toggle)
          else config.enabled toggle } := by
  induction toggles generalizing config with
  | nil => simp
  | cons first toggles ih =>
    rw [List.foldl_cons, ih, overrideToggle_eq]
    refine congrArg (fun enabled => { config with enabled }) (funext fun toggle => ?_)
    by_cases is : toggle = first
    · subst is
      simp only [List.mem_cons_self, if_true]
      cases (environment toggle.variableName).map isTruthy <;> simp
    · simp [is]

/-- Where the settings of a run come from: its variables first, then its layers from the last to the first. -/
structure Effective (environment : String → Option String) (layers : List (Path × Patch)) (settings : Settings) :
    Prop where
  sources : settings.sources = layers.map Prod.fst
  enabled : ∀ toggle, Settled (environment toggle.variableName) (fun text on => on = isTruthy text)
    (LastAsked (·.Sets toggle) true (layers.map Prod.snd)) (settings.config.enabled toggle)
  pathNaming : Settled (environment pathVariable) (fun text convention => convention.IsSpelled text)
    (LastAsked (fun patch convention => convention.IsGiven patch.naming.path) .hyphenCase (layers.map Prod.snd))
    settings.config.pathNaming
  parameterNaming : Settled (environment parameterVariable) (fun text convention => convention.IsSpelled text)
    (LastAsked (fun patch convention => convention.IsGiven patch.naming.parameter) .camelCase (layers.map Prod.snd))
    settings.config.parameterNaming
  propertyNaming : Settled (environment propertyVariable) (fun text convention => convention.IsSpelled text)
    (LastAsked (fun patch convention => convention.IsGiven patch.naming.property) .camelCase (layers.map Prod.snd))
    settings.config.propertyNaming
  extraDomains : settings.config.extraDomains =
    (layers.flatMap (·.2.domains) ++ ((environment domainsVariable).map listed).getD []).eraseDups

/-- Nothing is left open: the same surroundings have the same settings. -/
theorem Effective.unique {environment : String → Option String} {layers : List (Path × Patch)}
    (sorted : ∀ layer ∈ layers, Table.IsSorted layer.2.switches) {first second : Settings}
    (one : Effective environment layers first) (other : Effective environment layers second) : first = second := by
  have spelledOnce (given : String) (one other : Convention) :
      one.IsSpelled given → other.IsSpelled given → one = other := Convention.IsSpelled.unique
  have givenOnce (text : Patch → Option String) (default one other : Convention) :
      LastAsked (fun patch convention => convention.IsGiven (text patch)) default (layers.map Prod.snd) one →
        LastAsked (fun patch convention => convention.IsGiven (text patch)) default (layers.map Prod.snd) other →
        one = other := LastAsked.unique fun _ _ _ _ => Convention.IsGiven.unique
  have setOnce (toggle : Toggle) (on off : Bool) : LastAsked (·.Sets toggle) true (layers.map Prod.snd) on →
      LastAsked (·.Sets toggle) true (layers.map Prod.snd) off → on = off := by
    refine LastAsked.unique fun patch member on off => ?_
    obtain ⟨layer, present, rfl⟩ := List.mem_map.mp member
    exact Patch.Sets.unique (sorted layer present)
  obtain ⟨⟨enabled, path, parameter, property, domains⟩, sources⟩ := first
  obtain ⟨⟨enabled', path', parameter', property', domains'⟩, sources'⟩ := second
  obtain rfl : enabled = enabled' := funext fun toggle =>
    (one.enabled toggle).unique (fun _ _ _ is was => is.trans was.symm) (setOnce toggle) (other.enabled toggle)
  obtain rfl : path = path' := one.pathNaming.unique spelledOnce (givenOnce (·.naming.path) _) other.pathNaming
  obtain rfl : parameter = parameter' :=
    one.parameterNaming.unique spelledOnce (givenOnce (·.naming.parameter) _) other.parameterNaming
  obtain rfl : property = property' :=
    one.propertyNaming.unique spelledOnce (givenOnce (·.naming.property) _) other.propertyNaming
  obtain rfl : domains = domains' := one.extraDomains.trans other.extraDomains.symm
  obtain rfl : sources = sources' := one.sources.trans other.sources.symm
  rfl

/-- The variables that name conventions do so. -/
structure NamesConventions (environment : String → Option String) : Prop where
  path : NamesConvention (environment pathVariable)
  parameter : NamesConvention (environment parameterVariable)
  property : NamesConvention (environment propertyVariable)

private theorem Accumulated.override {environment : String → Option String} {layers : List (Path × Patch)}
    {settings : Settings} (accumulated : Accumulated layers settings) {config : Config}
    (overridden : override environment settings.config = .ok config) :
    NamesConventions environment ∧ Effective environment layers { settings with config } := by
  obtain ⟨named, naming, overridden⟩ := bind_eq_ok.mp overridden
  obtain rfl := Except.ok.inj overridden
  obtain ⟨⟨path, parameter, property⟩, enabled, domains, pathNaming, parameterNaming, propertyNaming⟩ :=
    Config.setConventions_eq_ok naming
  rw [foldl_overrideToggle] at enabled domains pathNaming parameterNaming propertyNaming
  refine ⟨⟨path, parameter, property⟩, accumulated.sources, fun toggle => ?_, ?_, ?_, ?_, ?_⟩
  · have settled : named.enabled toggle =
        ((environment toggle.variableName).map isTruthy).getD (settings.config.enabled toggle) := by
      rw [enabled]
      exact if_pos (Toggle.mem_all toggle)
    change Settled _ _ _ (named.enabled toggle)
    rw [settled]
    cases environment toggle.variableName with
    | none => exact accumulated.enabled toggle
    | some text => rfl
  · exact .of_updates path accumulated.pathNaming pathNaming
  · exact .of_updates parameter accumulated.parameterNaming parameterNaming
  · exact .of_updates property accumulated.propertyNaming propertyNaming
  · change Config.mergeUnique named.extraDomains _ = _
    rw [domains, accumulated.extraDomains, Config.mergeUnique_eraseDups]

private theorem override_ok {environment : String → Option String} (named : NamesConventions environment)
    (config : Config) :
    ∃ after, override environment config = .ok after := by
  obtain ⟨after, naming⟩ := Config.setConventions_ok (Toggle.all.foldl (overrideToggle environment) config)
    named.path named.parameter named.property
  exact ⟨_, bind_eq_ok.mpr ⟨after, naming, rfl⟩⟩

theorem layers_of_load {surroundings : Surroundings} {explicit : Option Path} {project : Path} {settings : Settings}
    (loaded : load surroundings explicit project = .ok settings) :
    ∃ layers, Layered surroundings project explicit layers ∧ (∀ layer ∈ layers, layer.2.IsMeaningful) ∧
      NamesConventions surroundings.environment ∧ Effective surroundings.environment layers settings := by
  obtain ⟨files, read, loaded⟩ := bind_eq_ok.mp loaded
  obtain ⟨config, overridden, loaded⟩ := bind_eq_ok.mp loaded
  obtain rfl := Except.ok.inj loaded
  obtain ⟨layers, layered, meaningful, accumulated⟩ := Accumulated.ofFiles read
  exact ⟨layers, layered, meaningful, accumulated.override (mapError_eq_ok.mp overridden)⟩

private theorem load_ok {surroundings : Surroundings} {explicit : Option Path} {project : Path}
    {layers : List (Path × Patch)}
    (layered : Layered surroundings project explicit layers) (meaningful : ∀ layer ∈ layers, layer.2.IsMeaningful)
    (named : NamesConventions surroundings.environment) :
    ∃ settings, load surroundings explicit project = .ok settings := by
  obtain ⟨files, read⟩ := ofFiles_ok layered meaningful
  obtain ⟨config, overridden⟩ := override_ok named files.config
  exact ⟨_, bind_eq_ok.mpr ⟨files, read, bind_eq_ok.mpr ⟨config, mapError_eq_ok.mpr overridden, rfl⟩⟩⟩

/-- Settings can be loaded exactly if every layer and every variable that is there makes sense, even where it is
overridden. The loaded ones are those that come from the right layers. -/
theorem load_iff_effective (surroundings : Surroundings) (explicit : Option Path) (project : Path) :
    ((∃ settings, load surroundings explicit project = .ok settings) ↔
      (∃ layers, Layered surroundings project explicit layers ∧ ∀ layer ∈ layers, layer.2.IsMeaningful) ∧
        NamesConventions surroundings.environment) ∧
    ∀ settings, load surroundings explicit project = .ok settings ↔
      ∃ layers, Layered surroundings project explicit layers ∧ (∀ layer ∈ layers, layer.2.IsMeaningful) ∧
        NamesConventions surroundings.environment ∧ Effective surroundings.environment layers settings := by
  refine ⟨⟨?_, ?_⟩, fun settings => ⟨layers_of_load, ?_⟩⟩
  · rintro ⟨settings, loaded⟩
    obtain ⟨layers, layered, meaningful, named, _⟩ := layers_of_load loaded
    exact ⟨⟨layers, layered, meaningful⟩, named⟩
  · rintro ⟨⟨layers, layered, meaningful⟩, named⟩
    exact load_ok layered meaningful named
  · rintro ⟨layers, layered, meaningful, named, effective⟩
    obtain ⟨loaded, load⟩ := load_ok layered meaningful named
    obtain ⟨others, layeredAgain, _, _, loadedEffective⟩ := layers_of_load load
    obtain rfl := layered.unique layeredAgain
    rw [load, effective.unique layered.sorted loadedEffective]

end Settings

end ApiStyle
