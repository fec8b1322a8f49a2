import ApiStyle.Text.White

/-! Naming conventions: the shapes that identifiers can be required to have. All of them are made of
ASCII letters and digits and start with a small letter. -/

namespace ApiStyle

inductive Convention where
  | camelCase | underscoreCase | hyphenCase
deriving DecidableEq, Repr, Inhabited

namespace Convention

def all : List Convention := [camelCase, underscoreCase, hyphenCase]

/-- The name of a convention in reports and configuration. -/
def designation : Convention → String
  | camelCase => "camelCase"
  | underscoreCase => "underscore_case"
  | hyphenCase => "hyphen-case"

/-- Another spelling that configuration accepts. -/
def alternative : Convention → String
  | camelCase => "CamelCase"
  | underscoreCase => "UnderscoreCase"
  | hyphenCase => "HyphenCase"

def ofDesignation? (text : String) : Option Convention := all.find? (·.designation = text)

/-- Either spelling, with white space around it. -/
def ofText? (text : String) : Option Convention :=
  let text := Text.trim text
  all.find? fun convention => convention.alternative = text ∨ convention.designation = text

/-- The designations as they are offered in messages. -/
def offer : String := "(expected " ++ "|".intercalate (all.map designation) ++ ")"

def isSmall (character : Char) : Bool := 'a' ≤ character && character ≤ 'z'

def isLarge (character : Char) : Bool := 'A' ≤ character && character ≤ 'Z'

def isDigit (character : Char) : Bool := '0' ≤ character && character ≤ '9'

def isWordChar (character : Char) : Bool := isSmall character || isDigit character

/-- Words joined by single separators, from inside a word or, if one has to start, from its start. -/
def joinsWords (separator : Char) : Bool → List Char → Bool
  | starting, [] => !starting
  | starting, character :: rest =>
    if isWordChar character then joinsWords separator false rest
    else !starting && character == separator && joinsWords separator true rest

/-- What comes after the first small letter. -/
def acceptsTail : Convention → List Char → Bool
  | camelCase, rest => rest.all fun character => isWordChar character || isLarge character
  | underscoreCase, rest => joinsWords '_' false rest
  | hyphenCase, rest => joinsWords '-' false rest

def acceptsChars (convention : Convention) : List Char → Bool
  | [] => false
  | first :: rest => isSmall first && convention.acceptsTail rest

def accepts (convention : Convention) (name : String) : Bool := convention.acceptsChars name.toList

end Convention

end ApiStyle
