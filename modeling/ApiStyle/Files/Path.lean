import ApiStyle.Text.Split

/-! Paths as they are written, and directories as the names that lead to them from the root. -/

namespace ApiStyle

structure Path where
  text : String
deriving DecidableEq, Repr, Inhabited

namespace Path

def isAbsolute (path : Path) : Bool := path.text.toList.head? = some '/'

/-- A path seen from a directory: an absolute one stays as it is. -/
def join (directory path : Path) : Path :=
  if path.isAbsolute then path
  else if directory.text.isEmpty ∨ directory.text.toList.getLast? = some '/' then ⟨directory.text ++ path.text⟩
  else ⟨directory.text ++ "/" ++ path.text⟩

/-- The names on the way; an empty one stands for the directory it is in. -/
def names (path : Path) : List String := Text.split '/' path.text

/-- What follows the last dot of the last name, if something stands before that dot. -/
def extension? (path : Path) : Option String :=
  match (Text.split '.' (path.names.getLast?.getD "")).reverse with
  | last :: other :: rest => if rest = [] ∧ other = "" then none else some last
  | _ => none

end Path

/-- An absolute directory, as names from the root down. -/
structure Directory where
  names : List String
deriving DecidableEq, Repr, Inhabited

namespace Directory

def ofPath (path : Path) : Directory := ⟨path.names.filter fun name => name ≠ "" ∧ name ≠ "."⟩

def path (directory : Directory) : Path := ⟨"/" ++ "/".intercalate directory.names⟩

/-- The directories from this one up to the root. -/
def upwards (directory : Directory) : List Directory :=
  (List.range (directory.names.length + 1)).map fun steps => ⟨directory.names.take (directory.names.length - steps)⟩

/-- The nearest directory, from this one upwards, that passes a test. -/
def nearest? (test : Directory → Bool) (directory : Directory) : Option Directory := directory.upwards.find? test

end Directory

end ApiStyle
