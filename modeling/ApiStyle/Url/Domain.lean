import ApiStyle.Rules.Config
import ApiStyle.Text.Split
import ApiStyle.Url.DomainTable

/-! Domain names that servers may have: a single label, or labels of which the last one is a known top-level domain.
A final dot does not count. -/

namespace ApiStyle.Domain

/-- Looks for a key between two positions of a sorted table. -/
def search (table : Array String) (key : String) (low high : Nat) : Bool :=
  if low < high then
    let middle := (low + high) / 2
    match table[middle]? with
    | none => false
    | some entry =>
      if entry = key then true
      else if entry < key then search table key (middle + 1) high
      else search table key low middle
  else false
termination_by high - low

def isLetter (character : Char) : Bool := Convention.isSmall character || Convention.isLarge character

/-- Two letters can only be a country code, and nothing else can. -/
def tableFor (label : String) : Array String :=
  if label.toList.length = 2 ∧ label.toList.all isLetter then countryCodes else genericDomains

def isDelegated (label : String) : Bool :=
  let table := tableFor label
  search table label 0 table.size

/-- Domains that are known although nobody delegates them. -/
def localDomains : List String := ["localhost", "localdomain"]

def lower (text : String) : String := String.ofList (text.toList.map Char.toLower)

/-- A listed domain without white space around it and without one dot in front. -/
def bareEntry (entry : String) : String :=
  match Text.trimChars entry.toList with
  | '.' :: rest => String.ofList rest
  | rest => String.ofList rest

def isKnown (extra : List String) (label : String) : Bool :=
  let label := lower label
  label ∈ localDomains || isDelegated label || extra.any fun entry => lower (bareEntry entry) = label

def isLabelChar (character : Char) : Bool :=
  isLetter character || Convention.isDigit character || character == '-'

/-- The most characters that a label may have. -/
def longestLabel : Nat := 63

def isLabel (label : String) : Bool :=
  let characters := label.toList
  !characters.isEmpty && characters.length ≤ longestLabel && characters.head? != some '-'
    && characters.getLast? != some '-' && characters.all isLabelChar

def labels (text : String) : List String :=
  let characters := text.toList
  let characters := if characters.getLast? = some '.' then characters.dropLast else characters
  (Text.pieces '.' characters).map String.ofList

def accepts (extra : List String) (text : String) : Bool :=
  let labels := labels text
  labels.all isLabel
    && match labels.reverse with
      | [] => false
      | [_] => true
      | last :: _ => isKnown extra last

end ApiStyle.Domain
