import ApiStyle.Files.Lookup
import ApiStyle.Json.Position
import ApiStyle.Rules.Patch
import ApiStyle.Toml.Position
import ApiStyle.Yaml.Decode

/-! Why a run has no result. Violations of the style are results; only their number can make a run fail,
after they have been reported. -/

namespace ApiStyle

/-- What is wrong with a text in one of the formats. Faults that count from the end come with their text. -/
inductive TextFault where
  | json (text : String) (fault : Json.Fault)
  | yaml (fault : Yaml.Fault)
  | toml (text : String) (fault : Toml.Fault)
deriving DecidableEq, Repr

inductive BadConfig where
  | unreadable (file : Path) (reason : Unreadable)
  | malformed (file : Option Path) (fault : TextFault)
  | setting (file : Option Path) (wrong : BadSetting)
deriving DecidableEq, Repr

inductive Failure where
  | unreadable (reason : Unreadable)
  | badDocument (file : Option Path) (fault : TextFault)
  | badConfig (problem : BadConfig)
  | noInfo
  | violated (count : Nat)
  | noDocument (path : Path)
  | noConfig (path : Path)
deriving DecidableEq, Repr

namespace TextFault

/-- The format a document was read as, before what is wrong with it. -/
def formatLabel : TextFault → String
  | json .. => "json: "
  | yaml _ => "yaml: "
  | toml .. => "toml: "

/-- A fault in full, with its place. -/
def located : TextFault → String
  | json text fault => fault.located text
  | yaml fault => fault.located
  | toml text fault => fault.located text

end TextFault

namespace BadConfig

def messageWith (tell : TextFault → String) : BadConfig → String
  | unreadable file reason => "read config " ++ file.text ++ ": " ++ reason.message
  | malformed none fault => "parse config: " ++ tell fault
  | malformed (some file) fault => "parse config " ++ file.text ++ ": " ++ tell fault
  | setting none wrong => wrong.message
  | setting (some file) wrong => file.text ++ ": " ++ wrong.message

end BadConfig

namespace Failure

/-- The kind of a failure in words. -/
def label : Failure → String
  | unreadable _ => "io error"
  | badDocument .. => "parse error"
  | badConfig _ => "configuration error"
  | noInfo => "invalid document"
  | violated _ => "validation failed"
  | noDocument _ => "not found"
  | noConfig _ => "not found"

/-- The kind of a failure for programs. -/
def code : Failure → String
  | unreadable _ => "io"
  | badDocument .. => "parse"
  | badConfig _ => "config"
  | noInfo => "invalid_document"
  | violated _ => "validation_failed"
  | noDocument _ => "not_found"
  | noConfig _ => "not_found"

def detailWith (tell : TextFault → String) : Failure → String
  | unreadable reason => reason.message
  | badDocument none fault => fault.formatLabel ++ tell fault
  | badDocument (some file) fault => file.text ++ ": " ++ fault.formatLabel ++ tell fault
  | badConfig problem => problem.messageWith tell
  | noInfo => "document has no 'info' object"
  | violated count => toString count ++ " violation(s) found"
  | noDocument path => "specification file " ++ path.text
  | noConfig path => "config file " ++ path.text

/-- What a failure says, given how faults of texts are told. -/
def messageWith (tell : TextFault → String) (failure : Failure) : String :=
  failure.label ++ ": " ++ failure.detailWith tell

def message (failure : Failure) : String := failure.messageWith TextFault.located

end Failure

end ApiStyle
