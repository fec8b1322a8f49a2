import ApiStyle.Violation.Basic

/-! The collector of a run: it keeps what is logged in the order of logging, and drops nothing. -/

namespace ApiStyle

structure Sink where
  violations : List Violation := []
deriving DecidableEq, Repr, Inhabited

namespace Sink

def log (sink : Sink) (violation : Violation) : Sink := ⟨sink.violations ++ [violation]⟩

def logAll (sink : Sink) (found : List Violation) : Sink := ⟨sink.violations ++ found⟩

def size (sink : Sink) : Nat := sink.violations.length

def isEmpty (sink : Sink) : Bool := sink.violations.isEmpty

@[simp] theorem violations_logAll (sink : Sink) (found : List Violation) :
    (sink.logAll found).violations = sink.violations ++ found := rfl

end Sink

end ApiStyle
