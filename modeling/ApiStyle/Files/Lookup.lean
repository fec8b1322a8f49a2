import ApiStyle.Files.Path

/-! What a run may learn of files: a look at a path shows nothing, or something with its text, or
something that has no text and the reason for that. -/

namespace ApiStyle

/-- Why something that exists cannot be read as text. -/
inductive Unreadable where
  | directory
  | notText
  /-- for a reason that the system tells -/
  | refused (reason : String)
deriving DecidableEq, Repr

namespace Unreadable

def message : Unreadable → String
  | directory => "Is a directory (os error 21)"
  | notText => "stream did not contain valid UTF-8"
  | refused reason => reason

end Unreadable

abbrev Lookup := Option (Except Unreadable String)

namespace Lookup

def isFile : Lookup → Bool
  | none => false
  | some (.error .directory) => false
  | some _ => true

end Lookup

instance : Coe Directory (Except String Directory) := ⟨.ok⟩

/-- What a run sees of its surroundings. -/
structure Surroundings where
  look : Path → Lookup
  environment : String → Option String
  /-- the current directory, or why the system cannot tell it -/
  directory : Except String Directory := Directory.mk []
  /-- the user's directory for settings -/
  settings : Option Path := none

namespace Surroundings

/-- The user's directory for settings, as variables tell it. -/
def settingsIn (environment : String → Option String) : Option Path :=
  match ((environment "XDG_CONFIG_HOME").map Path.mk).filter Path.isAbsolute with
  | some directory => some directory
  | none => ((environment "HOME").filter (!·.isEmpty)).map fun home => Path.join ⟨home⟩ ⟨".config"⟩

/-- The nearest directory, from the given one upwards, that has a file of the given name. -/
def nearestWith? (surroundings : Surroundings) (start : Directory) (name : String) : Option Directory :=
  start.nearest? fun directory => (surroundings.look (directory.path.join ⟨name⟩)).isFile

end Surroundings

end ApiStyle
