import ApiStyle.Report.Layout
import ApiStyle.Validator

/-! Lists of the passes with the toggles that shape them. -/

namespace ApiStyle.Report

def passJson (config : Config) (pass : Pass) : Json :=
  .object [("id", .string pass.id), ("name", .string pass.name), ("description", .string pass.description),
    ("section", .string pass.part.name), ("toggles", Json.strings (pass.toggles.map Toggle.id)),
    ("enabled", .bool (pass.isEnabled config))]

def passesJson (validator : Validator) (config : Config) : Json :=
  .array (validator.passes.map (passJson config))

def toggleText (config : Config) (toggle : Toggle) : String :=
  toggle.id ++ (if config.enabled toggle then " (on)" else " (off)")

def addPass (config : Config) (layout : Layout) (pass : Pass) : Layout :=
  let badge := if pass.isEnabled config then "" else " [disabled]"
  let layout := (layout.heading (pass.id ++ " - " ++ pass.name ++ badge)).line pass.description
  (pass.toggles.foldl (fun layout toggle => layout.bullet (toggleText config toggle)) layout).blank

def passesLayout (validator : Validator) (config : Config) : Layout :=
  validator.passes.foldl (addPass config) (({} : Layout).title "Validation Passes")

end ApiStyle.Report
