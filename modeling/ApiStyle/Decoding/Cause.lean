import ApiStyle.Decimal.Numeral

/-! Why a decoder refuses a value, and how that is said. The wording is the same for every input
format; what was found differs, because the formats know different kinds of values. -/

namespace ApiStyle

/-- What stood where something else was expected. -/
inductive Found where
  | null | unit
  | bool (value : Bool)
  | integer (value : Int)
  /-- an integer beyond sixty-four bits, with the name of its width -/
  | wide (value : Int) (width : String)
  | float (text : String)
  | string (quoted : String)
  | sequence | map | enumeration
deriving DecidableEq, Repr

namespace Found

def describe : Found → String
  | null => "null"
  | unit => "unit value"
  | bool value => "boolean `" ++ (if value then "true" else "false") ++ "`"
  | integer value => "integer `" ++ toString value ++ "`"
  | wide value width => "integer `" ++ toString value ++ "` as " ++ width
  | float text => "floating point `" ++ text ++ "`"
  | string quoted => "string " ++ quoted
  | sequence => "sequence"
  | map => "map"
  | enumeration => "enum"

end Found

inductive Cause where
  | invalidType (found : Found) (expected : String)
  | invalidValue (found : Found) (expected : String)
  | invalidLength (length : Nat) (expected : String)
  | missingField (name : String)
  | duplicateField (name : String)
  | unknownField (name : String) (known : List String)
  | unknownVariant (name : String) (known : List String)
  | duplicatePath (path : String)
  | numberOutOfRange
  /-- a number that a tree cannot hold -/
  | jsonNumberOutOfRange
  | tooDeep
  /-- more items than the record has fields -/
  | surplus
  /-- neither a variant's name nor an object with one member -/
  | notVariant
deriving DecidableEq, Repr

namespace Cause

def ticked (name : String) : String := "`" ++ name ++ "`"

/-- The names a field or variant could have had. -/
def choices : List String → String
  | [] => "there are no fields"
  | [name] => "expected " ++ ticked name
  | [first, second] => "expected " ++ ticked first ++ " or " ++ ticked second
  | names => "expected one of " ++ ", ".intercalate (names.map ticked)

def message : Cause → String
  | invalidType found expected => "invalid type: " ++ found.describe ++ ", expected " ++ expected
  | invalidValue found expected => "invalid value: " ++ found.describe ++ ", expected " ++ expected
  | invalidLength length expected => "invalid length " ++ toString length ++ ", expected " ++ expected
  | missingField name => "missing field " ++ ticked name
  | duplicateField name => "duplicate field " ++ ticked name
  | unknownField name known => "unknown field " ++ ticked name ++ ", " ++ choices known
  | unknownVariant name known => "unknown variant " ++ ticked name ++ ", " ++ choices known
  | duplicatePath path => "duplicate path '" ++ path ++ "'"
  | numberOutOfRange => "number out of range"
  | jsonNumberOutOfRange => "JSON number out of range"
  | tooDeep => "recursion limit exceeded"
  | surplus => "trailing characters"
  | notVariant => "expected value"

end Cause

end ApiStyle
