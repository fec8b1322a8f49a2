import ApiStyle.Naming.Convention
import ApiStyle.Rules.Toggle

/-! What a run checks: which rules are on, which names are expected and which domains are known. -/

namespace ApiStyle

structure Config where
  enabled : Toggle → Bool := fun _ => true
  pathNaming : Convention := .hyphenCase
  parameterNaming : Convention := .camelCase
  propertyNaming : Convention := .camelCase
  /-- top-level domains accepted besides the delegated ones -/
  extraDomains : List String := []
deriving Inhabited

namespace Config

def set (config : Config) (toggle : Toggle) (on : Bool) : Config :=
  { config with enabled := fun other => if other = toggle then on else config.enabled other }

@[simp] theorem enabled_set (config : Config) (toggle other : Toggle) (on : Bool) :
    (config.set toggle on).enabled other = if other = toggle then on else config.enabled other := rfl

theorem foldl_set (toggles : List Toggle) (on : Bool) (config : Config) :
    toggles.foldl (fun config toggle => config.set toggle on) config =
      { config with enabled := fun toggle => if toggle ∈ toggles then on else config.enabled toggle } := by
  induction toggles generalizing config with
  | nil => simp
  | cons first rest ih =>
    rw [List.foldl_cons, ih, set]
    refine congrArg (fun enabled => { config with enabled }) (funext fun toggle => ?_)
    by_cases same : toggle = first <;> simp [same]

/-- The toggles that are off, in the order of `Toggle.all`. -/
def disabled (config : Config) : List Toggle := Toggle.all.filter (!config.enabled ·)

end Config

end ApiStyle
