import ApiStyle.CommandLine.Flag
import ApiStyle.Files.Path

/-! Reading arguments from left to right. The value of a flag may be joined to it or follow as an argument of its
own; a value that follows is looked at only when the next argument has been recognised. After two dashes
every argument is an input. -/

namespace ApiStyle

/-- What the arguments of one scope ask for. -/
structure Given where
  verbose : Nat := 0
  quiet : Bool := false
  robot : Bool := false
  config : Option Path := none
  format : Option Format := none
  disable : List Toggle := []
  enable : List Toggle := []
  pathNaming : Option Convention := none
  parameterNaming : Option Convention := none
  propertyNaming : Option Convention := none
  domains : List String := []
  input : Option Path := none
deriving DecidableEq, Repr, Inhabited

/-- An argument that has been recognised and not looked at. -/
inductive Pending where
  | nothing
  | flag (flag : Flag) (value : Option String)
  | input (text : String)
deriving DecidableEq, Repr, Inhabited

namespace Given

def inputLabel : String := "<INPUT>"

/-- The verbosity stops counting here. -/
def loudest : Nat := 255

def once (label : String) (given : Option α) : Except Refusal Unit :=
  if given.isSome then .error (.repeated label) else .ok ()

def switchOnce (label : String) (given : Bool) : Except Refusal Unit :=
  if given then .error (.repeated label) else .ok ()

def path (label text : String) : Except Refusal Path :=
  if text.isEmpty then .error (.emptyValue label) else .ok ⟨text⟩

def formatNamed (scope : Scope) (text : String) : Except Refusal Format :=
  match scope.formats.find? (·.name = text) with
  | some format => .ok format
  | none => .error (if text.isEmpty then .emptyValue Flag.format.label else .unknownValue text Flag.format.label)

def convention (flag : Flag) (text : String) : Except Refusal Convention :=
  (Convention.ofSetting text).mapError (.badSetting text flag.label)

def toggles (flag : Flag) (text : String) : Except Refusal (List Toggle) :=
  (Text.split ',' text).mapM fun name => (Toggle.ofSetting name).mapError (.badSetting name flag.label)

def setValue (scope : Scope) (flag : Flag) (text : String) (given : Given) : Except Refusal Given := do
  match flag with
  | .config =>
    once flag.label given.config
    return { given with config := ← path flag.label text }
  | .format =>
    once flag.label given.format
    return { given with format := ← formatNamed scope text }
  | .disable => return { given with disable := given.disable ++ (← toggles flag text) }
  | .enable => return { given with enable := given.enable ++ (← toggles flag text) }
  | .pathNaming =>
    once flag.label given.pathNaming
    return { given with pathNaming := ← convention flag text }
  | .parameterNaming =>
    once flag.label given.parameterNaming
    return { given with parameterNaming := ← convention flag text }
  | .propertyNaming =>
    once flag.label given.propertyNaming
    return { given with propertyNaming := ← convention flag text }
  | .additionalDomain => return { given with domains := given.domains ++ Text.split ',' text }
  | _ => return given

def setSwitch (scope : Scope) (flag : Flag) (given : Given) : Except Refusal Given := do
  match flag with
  | .verbose => return { given with verbose := min (given.verbose + 1) loudest }
  | .quiet =>
    switchOnce flag.label given.quiet
    return { given with quiet := true }
  | .robot =>
    switchOnce flag.label given.robot
    return { given with robot := true }
  | .help => throw .helpAsked
  | .version => throw (.versionAsked scope)
  | _ => return given

def settle (scope : Scope) (given : Given) : Pending → Except Refusal Given
  | .nothing => .ok given
  | .flag flag none => .error (.emptyValue flag.label)
  | .flag flag (some text) => given.setValue scope flag text
  | .input text => do return { given with input := some (← path inputLabel text) }

end Given

/-- How far the reading has come. -/
structure Reader where
  given : Given := {}
  pending : Pending := .nothing
  inputsOnly : Bool := false
  hasInput : Bool := false
deriving DecidableEq, Repr, Inhabited

namespace Reader

/-- A flag still wants its value. -/
def isWaiting (reader : Reader) : Bool :=
  match reader.pending with
  | .flag _ none => !reader.inputsOnly
  | _ => false

def settle (scope : Scope) (reader : Reader) : Except Refusal Reader := do
  return { reader with given := ← reader.given.settle scope reader.pending, pending := .nothing }

/-- A flag that wants a value, with the value that was joined to it if there is one. -/
def takeFlag (scope : Scope) (flag : Flag) (joined : Option String) (reader : Reader) : Except Refusal Reader := do
  let reader ← reader.settle scope
  match joined with
  | none => return { reader with pending := .flag flag none }
  | some text => return { reader with given := ← reader.given.setValue scope flag text }

def takeSwitch (scope : Scope) (flag : Flag) (reader : Reader) : Except Refusal Reader := do
  let reader ← reader.settle scope
  return { reader with given := ← reader.given.setSwitch scope flag }

def takeLong (scope : Scope) (name : String) (joined : Option String) (reader : Reader) : Except Refusal Reader :=
  match scope.long? name with
  | none => .error (.unknownArgument ("--" ++ name))
  | some flag =>
    if flag.takesValue then reader.takeFlag scope flag joined
    else match joined with
      | some text => .error (.surplusValue text flag.label)
      | none => reader.takeSwitch scope flag

/-- The value that is joined to a letter, with or without an equals sign. -/
def joinedValue : List Char → Option String
  | [] => none
  | '=' :: value => some (String.ofList value)
  | value => some (String.ofList value)

def takeShort (scope : Scope) : List Char → Reader → Except Refusal Reader
  | [], reader => .ok reader
  | letter :: letters, reader =>
    match scope.short? letter with
    | none => .error (.unknownArgument (String.ofList ['-', letter]))
    | some flag =>
      if flag.takesValue then reader.takeFlag scope flag (joinedValue letters)
      else do takeShort scope letters (← reader.takeSwitch scope flag)

def isCommandName (text : String) : Bool := (Command.ofName? text).isSome || text = Flag.help.long

/-- An argument that is no flag. -/
def takeInput (scope : Scope) (text : String) (reader : Reader) : Except Refusal Reader :=
  match scope with
  | none =>
    .error (if reader.inputsOnly && isCommandName text then .unknownArgument text else .unknownCommand text)
  | some .rules => .error (.unknownArgument text)
  | some .validate =>
    if reader.hasInput then .error (.unknownArgument text)
    else do return { ← reader.settle scope with pending := .input text, hasInput := true }

/-- An argument without dashes is the value of a flag that waits for one. -/
def takePlain (scope : Scope) (text : String) (reader : Reader) : Except Refusal Reader :=
  match reader.pending with
  | .flag flag none =>
    if reader.inputsOnly then reader.takeInput scope text
    else .ok { reader with pending := .flag flag (some text) }
  | _ => reader.takeInput scope text

def take (scope : Scope) (text : String) (reader : Reader) : Except Refusal Reader :=
  if reader.inputsOnly then reader.takeInput scope text
  else match text.toList with
    | ['-', '-'] => .ok { reader with inputsOnly := true }
    | '-' :: '-' :: rest =>
      match (Text.pieces '=' rest).map String.ofList with
      | name :: value :: values => reader.takeLong scope name (some ("=".intercalate (value :: values)))
      | _ => reader.takeLong scope (String.ofList rest) none
    | '-' :: letter :: letters => takeShort scope (letter :: letters) reader
    | _ => reader.takePlain scope text

/-- Reads up to the name of a command, if one may stand there, and leaves what follows it. -/
def readFrom (scope : Scope) : Reader → List String → Except Refusal (Reader × Option (String × List String))
  | reader, [] => .ok (reader, none)
  | reader, text :: texts =>
    if scope.isNone && !reader.inputsOnly && !reader.isWaiting && isCommandName text then
      .ok (reader, some (text, texts))
    else do readFrom scope (← reader.take scope text) texts

end Reader

end ApiStyle
