/-! Tables of cases for a function that may fail. The first case that does not come out as expected is reported;
of a case that should fail, no value is expected. -/

namespace ApiStyle

structure TableCase (α β : Type) where
  name : String
  input : α
  expected : β
  shouldFail : Bool

namespace TableCase

inductive Mismatch (β : Type) where
  | noFailure (name : String)
  | failure (name : String)
  | value (name : String) (expected actual : β)
deriving DecidableEq, Repr

def Mismatch.message (render : β → String) : Mismatch β → String
  | noFailure name => "Test '" ++ name ++ "' expected panic"
  | failure name => "Test '" ++ name ++ "' panicked unexpectedly"
  | value name expected actual =>
    "Test '" ++ name ++ "' failed: expected " ++ render expected ++ ", got " ++ render actual

def check [DecidableEq β] (run : α → Option β) (tableCase : TableCase α β) : Option (Mismatch β) :=
  match run tableCase.input with
  | none => if tableCase.shouldFail then none else some (.failure tableCase.name)
  | some actual =>
    if tableCase.shouldFail then some (.noFailure tableCase.name)
    else if actual = tableCase.expected then none
    else some (.value tableCase.name tableCase.expected actual)

def firstMismatch [DecidableEq β] (run : α → Option β) (cases : List (TableCase α β)) : Option (Mismatch β) :=
  cases.findSome? (check run)

end TableCase

end ApiStyle
