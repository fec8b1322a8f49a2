import ApiStyle.CommandLine.Invocation
import ApiStyle.Proofs.ConfigLayers

/-! Flags on top of settings. A toggle goes by the flags that name it, in whatever order and however often they do, and
only then by the settings; a flag for a convention replaces it; and domains of flags come behind those of files and of
the environment. Files and flags keep domains apart in two different ways. Either way no domain is listed twice, and
all are in the order in which they are first mentioned. -/

namespace ApiStyle

/-- Values are those that are mentioned somewhere, in the order of their first mentions. -/
structure FirstMentions (mentions values : List String) : Prop where
  same : ∀ value, value ∈ values ↔ value ∈ mentions
  ordered : values.Pairwise fun earlier later => mentions.idxOf earlier < mentions.idxOf later

private theorem FirstMentions.nodup {mentions values : List String} (first : FirstMentions mentions values) :
    values.Nodup := by
  refine first.ordered.imp fun {earlier later} before same => ?_
  rw [same] at before
  exact absurd before (Nat.lt_irrefl _)

private theorem firstMentions_eraseDups (mentions : List String) : FirstMentions mentions mentions.eraseDups := by
  refine ⟨fun value => List.mem_eraseDups, ?_⟩
  induction mentions using List.reverseRecOn with
  | nil => exact .nil
  | append_singleton mentions value ih =>
    have kept : mentions.eraseDups.Pairwise fun earlier later =>
        (mentions ++ [value]).idxOf earlier < (mentions ++ [value]).idxOf later := by
      refine ih.imp_of_mem fun {earlier later} here there before => ?_
      rwa [List.idxOf_append_of_mem (List.mem_eraseDups.mp here),
        List.idxOf_append_of_mem (List.mem_eraseDups.mp there)]
    rw [eraseDups_snoc]
    split
    next => exact kept
    next absent =>
      refine List.pairwise_append.mpr ⟨kept, List.pairwise_singleton _ _, fun earlier here later last => ?_⟩
      have here := List.mem_eraseDups.mp here
      obtain rfl := List.mem_singleton.mp last
      rw [List.idxOf_append_of_mem here, List.idxOf_append_of_notMem absent]
      exact Nat.lt_add_right _ (List.idxOf_lt_length_of_mem here)

namespace Overrides

private theorem addMissing_eraseDups (listed values : List String) :
    addMissing listed.eraseDups values = (listed ++ values).eraseDups := by
  induction values generalizing listed with
  | nil => rw [addMissing, List.append_nil]
  | cons value values ih =>
    have extended : (if value ∈ listed.eraseDups then listed.eraseDups else listed.eraseDups ++ [value]) =
        (listed ++ [value]).eraseDups := by
      simp only [eraseDups_snoc, List.mem_eraseDups]
    rw [addMissing, extended, ih, List.append_assoc, List.singleton_append]

theorem apply_eq (overrides : Overrides) (config : Config) : overrides.apply config = {
    enabled := fun toggle =>
      if toggle ∈ overrides.disable then false
      else if toggle ∈ overrides.enable then true
      else config.enabled toggle
    pathNaming := overrides.pathNaming.getD config.pathNaming
    parameterNaming := overrides.parameterNaming.getD config.parameterNaming
    propertyNaming := overrides.propertyNaming.getD config.propertyNaming
    extraDomains := addMissing config.extraDomains overrides.domains } := by
  rw [apply, Config.foldl_set, Config.foldl_set]

private theorem enabled_apply (overrides : Overrides) (config : Config) (toggle : Toggle) :
    (overrides.apply config).enabled toggle = true ↔
      toggle ∉ overrides.disable ∧ (toggle ∈ overrides.enable ∨ config.enabled toggle = true) := by
  rw [apply_eq]
  by_cases off : toggle ∈ overrides.disable <;> by_cases on : toggle ∈ overrides.enable <;> simp [off, on]

end Overrides

namespace Settings

/-- The domains that the files and the environment mention. -/
def mentioned (environment : String → Option String) (layers : List (Path × Patch)) : List String :=
  layers.flatMap (·.2.domains) ++ ((environment domainsVariable).map listed).getD []

variable {surroundings : Surroundings} {explicit : Option Path} {project : Path} {settings : Settings}

private theorem domains_of_load (loaded : load surroundings explicit project = .ok settings) :
    ∃ layers, Layered surroundings project explicit layers ∧
      settings.config.extraDomains = (mentioned surroundings.environment layers).eraseDups := by
  obtain ⟨layers, layered, _, _, effective⟩ := layers_of_load loaded
  exact ⟨layers, layered, effective.extraDomains⟩

/-- What flags make of loaded settings. -/
theorem overridden_by_flags (loaded : load surroundings explicit project = .ok settings) (flags : Overrides) :
    (∀ toggle, (flags.apply settings.config).enabled toggle = true ↔
      toggle ∉ flags.disable ∧ (toggle ∈ flags.enable ∨ settings.config.enabled toggle = true)) ∧
    (flags.apply settings.config).pathNaming = flags.pathNaming.getD settings.config.pathNaming ∧
    (flags.apply settings.config).parameterNaming = flags.parameterNaming.getD settings.config.parameterNaming ∧
    (flags.apply settings.config).propertyNaming = flags.propertyNaming.getD settings.config.propertyNaming ∧
    (flags.apply settings.config).extraDomains = (settings.config.extraDomains ++ flags.domains).eraseDups ∧
    (flags.apply settings.config).extraDomains.Nodup ∧
    ∃ layers, Layered surroundings project explicit layers ∧
      FirstMentions (mentioned surroundings.environment layers ++ flags.domains)
        (flags.apply settings.config).extraDomains := by
  obtain ⟨layers, layered, listed⟩ := domains_of_load loaded
  have all : (flags.apply settings.config).extraDomains =
      (mentioned surroundings.environment layers ++ flags.domains).eraseDups := by
    rw [Overrides.apply_eq, listed]
    exact Overrides.addMissing_eraseDups _ _
  have first := firstMentions_eraseDups (mentioned surroundings.environment layers ++ flags.domains)
  rw [← all] at first
  refine ⟨flags.enabled_apply settings.config, ?_, ?_, ?_, ?_, first.nodup, layers, layered, first⟩
  · rw [Overrides.apply_eq]
  · rw [Overrides.apply_eq]
  · rw [Overrides.apply_eq]
  · rw [all, listed, eraseDups_append_eraseDups]

/-- A project with a file for settings, and a variable that adds to its domains. -/
def layeredSurroundings : Surroundings where
  look path :=
    if path.text = "project/.oas-style.toml" then
      some (.ok ("[rules]\nvalidateNaming = false\n"
        ++ "[servers]\nadditional_top_level_domains = [\"corp\", \"lan\", \"corp\"]\n"))
    else none
  environment name := if name = domainsVariable then some "lan, test" else none

/-- Flags that name some toggles and domains more than once. -/
def repeatedFlags : Overrides where
  disable := [.operationTag, .serverInfo, .operationTag]
  enable := [.operationTag, .naming]
  pathNaming := some .underscoreCase
  domains := ["dev", "corp", "dev"]

theorem overridden_by_repeatedFlags : ∃ settings, load layeredSurroundings none ⟨"project"⟩ = .ok settings ∧
    settings.config.disabled = [.naming] ∧
    (repeatedFlags.apply settings.config).enabled .operationTag = false ∧
    (repeatedFlags.apply settings.config).enabled .naming = true ∧
    (repeatedFlags.apply settings.config).pathNaming = .underscoreCase ∧
    (repeatedFlags.apply settings.config).extraDomains = ["corp", "lan", "test", "dev"] := by
  have known : (load layeredSurroundings none ⟨"project"⟩).toOption.map
      (fun settings => (settings.config.extraDomains, settings.config.disabled)) =
        some (["corp", "lan", "test"], [.naming]) := by decide +kernel
  cases loaded : load layeredSurroundings none ⟨"project"⟩ with
  | error failure => simp [loaded, Except.toOption] at known
  | ok settings =>
    obtain ⟨domains, disabled⟩ : settings.config.extraDomains = ["corp", "lan", "test"] ∧
        settings.config.disabled = [.naming] := by simpa [loaded, Except.toOption] using known
    obtain ⟨enabled, path, _, _, extra, _⟩ := overridden_by_flags loaded repeatedFlags
    refine ⟨settings, rfl, disabled, ?_, ?_, path, ?_⟩
    · exact Bool.eq_false_iff.mpr fun on => ((enabled .operationTag).mp on).1 (by decide)
    · exact (enabled .naming).mpr ⟨by decide, .inl (by decide)⟩
    · rw [extra, domains]
      decide

end Settings

end ApiStyle
