import ApiStyle.Yaml.Cursor

/-! Why a text is not YAML: what went wrong and where, and the construct that was being read. -/

namespace ApiStyle.Yaml

inductive Problem where
  | keyWithoutValue | badStart | blockEntry | blockKey | blockValue
  | unknownDirective | directiveEnd | directiveName | directiveLetter
  | versionSeparator | versionLength | versionNumber | directiveBlank | directiveBlankOrBreak
  | anchorName | verbatimEnd | tagEnd | handleStart | tagUri | uriEscape | leadingOctet | trailingOctet
  | zeroIndent | blockHeaderEnd | blockTab | documentMark | streamEnd | unknownEscape | hexNumber
  | badCode | plainColon | plainTab
  | documentStart | repeatedVersion | version | repeatedHandle | undefinedHandle | nodeContent
  | blockItem | blockMember | flowItem | flowMember
deriving DecidableEq, Repr

def Problem.message : Problem → String
  | keyWithoutValue => "could not find expected ':'"
  | badStart => "found character that cannot start any token"
  | blockEntry => "block sequence entries are not allowed in this context"
  | blockKey => "mapping keys are not allowed in this context"
  | blockValue => "mapping values are not allowed in this context"
  | unknownDirective => "found unknown directive name"
  | directiveEnd => "did not find expected comment or line break"
  | directiveName => "could not find expected directive name"
  | directiveLetter => "found unexpected non-alphabetical character"
  | versionSeparator => "did not find expected digit or '.' character"
  | versionLength => "found extremely long version number"
  | versionNumber => "did not find expected version number"
  | directiveBlank => "did not find expected whitespace"
  | directiveBlankOrBreak => "did not find expected whitespace or line break"
  | anchorName => "did not find expected alphabetic or numeric character"
  | verbatimEnd => "did not find the expected '>'"
  | tagEnd => "did not find expected whitespace or line break"
  | handleStart => "did not find expected '!'"
  | tagUri => "did not find expected tag URI"
  | uriEscape => "did not find URI escaped octet"
  | leadingOctet => "found an incorrect leading UTF-8 octet"
  | trailingOctet => "found an incorrect trailing UTF-8 octet"
  | zeroIndent => "found an indentation indicator equal to 0"
  | blockHeaderEnd => "did not find expected comment or line break"
  | blockTab => "found a tab character where an indentation space is expected"
  | documentMark => "found unexpected document indicator"
  | streamEnd => "found unexpected end of stream"
  | unknownEscape => "found unknown escape character"
  | hexNumber => "did not find expected hexdecimal number"
  | badCode => "found invalid Unicode character escape code"
  | plainColon => "found unexpected ':'"
  | plainTab => "found a tab character that violates indentation"
  | documentStart => "did not find expected <document start>"
  | repeatedVersion => "found duplicate %YAML directive"
  | version => "found incompatible YAML document"
  | repeatedHandle => "found duplicate %TAG directive"
  | undefinedHandle => "found undefined tag handle"
  | nodeContent => "did not find expected node content"
  | blockItem => "did not find expected '-' indicator"
  | blockMember => "did not find expected key"
  | flowItem => "did not find expected ',' or ']'"
  | flowMember => "did not find expected ',' or '\x7d'"

/-- What was being read. -/
inductive Construct where
  | simpleKey | nextToken | directive | versionDirective | tagDirectiveValue | tagDirectiveUri
  | tagDirectiveStart | tagDirectiveHandle | anchor | aliasTo | tag | tagText
  | blockScalar | quotedScalar | quotedText | plainScalar
  | node | blockNode | flowNode | blockCollection | blockMapping | flowSequence | flowMapping
deriving DecidableEq, Repr

def Construct.message : Construct → String
  | simpleKey => "while scanning a simple key"
  | nextToken => "while scanning for the next token"
  | directive => "while scanning a directive"
  | versionDirective => "while scanning a %YAML directive"
  | tagDirectiveValue => "while scanning a %TAG directive"
  | tagDirectiveUri => "while parsing a %TAG directive"
  | tagDirectiveStart => "while scanning a tag directive"
  | tagDirectiveHandle => "while parsing a tag directive"
  | anchor => "while scanning an anchor"
  | aliasTo => "while scanning an alias"
  | tag => "while scanning a tag"
  | tagText => "while parsing a tag"
  | blockScalar => "while scanning a block scalar"
  | quotedScalar => "while scanning a quoted scalar"
  | quotedText => "while parsing a quoted scalar"
  | plainScalar => "while scanning a plain scalar"
  | node => "while parsing a node"
  | blockNode => "while parsing a block node"
  | flowNode => "while parsing a flow node"
  | blockCollection => "while parsing a block collection"
  | blockMapping => "while parsing a block mapping"
  | flowSequence => "while parsing a flow sequence"
  | flowMapping => "while parsing a flow mapping"

inductive Malformed where
  /-- a character that no text may hold, by the bytes before it -/
  | forbidden (offset : Nat)
  | unknownAnchor (position : Position)
  | complaint (problem : Problem) (position : Position) (context : Option (Construct × Position))
deriving DecidableEq, Repr

/-- Where something is, unless it is at the very start. -/
def Position.suffix (position : Position) : String :=
  if position.line = 0 ∧ position.column = 0 then ""
  else " at line " ++ toString (position.line + 1) ++ " column " ++ toString (position.column + 1)

def Malformed.message : Malformed → String
  | forbidden offset =>
    "control characters are not allowed" ++ (if offset = 0 then "" else " at position " ++ toString offset)
  | unknownAnchor position => "unknown anchor" ++ position.suffix
  | complaint problem position none => problem.message ++ position.suffix
  | complaint problem position (some (construct, start)) =>
    problem.message ++ position.suffix ++ ", " ++ construct.message
      ++ (if start.line = position.line ∧ start.column = position.column then "" else start.suffix)

/-- A complaint at a place in a construct that started earlier. -/
def complain (problem : Problem) (position : Position) (construct : Construct) (start : Position) :
    Except Malformed α :=
  .error (.complaint problem position (some (construct, start)))

end ApiStyle.Yaml
