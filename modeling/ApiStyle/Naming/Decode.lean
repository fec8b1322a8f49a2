import ApiStyle.Naming.Convention
import ApiStyle.Decoding.Source

/-! Conventions in structured data are told by their designations. -/

namespace ApiStyle

def Convention.decode {m : Type → Type} {ν : Type} [Source m ν] (node : ν) : m Convention :=
  Source.variant (fun name =>
    match ofDesignation? name with
    | some convention => pure convention
    | none => Source.refuse .before (.unknownVariant name (all.map designation))) node

end ApiStyle
