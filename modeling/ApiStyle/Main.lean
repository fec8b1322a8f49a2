import ApiStyle.Terminal

/-! The program: it looks at its surroundings, answers its arguments and prints the answer. -/

namespace ApiStyle.Terminal

/-- The number of the error for reading a directory. -/
def isDirectory : UInt32 := 21

/-- What a failed look at a path shows. A path that goes through a file leads nowhere. -/
def lookupOfError : IO.Error → Lookup
  | .noFileOrDirectory .. => none
  | .inappropriateType _ code _ => if code = isDirectory then some (.error .directory) else none
  | .permissionDenied .. => some (.error (.refused "Permission denied (os error 13)"))
  | error => some (.error (.refused (toString error)))

def lookAt (path : Path) : IO Lookup := do
  try
    let bytes ← IO.FS.readBinFile path.text
    return some (match String.fromUTF8? bytes with
      | some text => .ok text
      | none => .error .notText)
  catch error => return lookupOfError error

/-- The current directory. It cannot be told if it has been removed, which shows in an error without a number. -/
def currentDirectory : IO (Except String Directory) := do
  try
    return .ok (Directory.ofPath ⟨(← IO.currentDir).toString⟩)
  catch _ => return .error "No such file or directory (os error 2)"

/-- The variables and directories, with nothing to look at. -/
def currentSurroundings : IO Surroundings := do
  let values ← variableNames.mapM fun name => return (name, ← IO.getEnv name)
  let environment := fun name => (values.lookup name).join
  let directory ← currentDirectory
  return { look := fun _ => none, environment, directory, settings := Surroundings.settingsIn environment }

end ApiStyle.Terminal

open ApiStyle in
def main (arguments : List String) : IO UInt32 := do
  let surroundings ← Terminal.currentSurroundings
  let seen ← (Terminal.paths surroundings arguments).mapM fun path => return (path, ← Terminal.lookAt path)
  let surroundings := { surroundings with look := fun path => (seen.lookup path).join }
  let screen := Terminal.answer surroundings (← (← IO.getStdout).isTty) arguments
  IO.print screen.output
  IO.eprint screen.errors
  return screen.exit.toUInt32
