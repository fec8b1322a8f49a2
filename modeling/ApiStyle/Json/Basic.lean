import ApiStyle.Decimal.Numeral

/-! JSON trees. Objects keep their members in order and may repeat a key; a tree that stands for
stored data has each object sorted by key and each number in canonical form. -/

namespace ApiStyle

inductive Json where
  | null
  | bool (value : Bool)
  | number (value : Numeral)
  | string (value : String)
  | array (items : List Json)
  | object (members : List (String × Json))
deriving Repr, Inhabited

namespace Json

def nat (value : Nat) : Json := .number (.ofNat value)

/-- An object without the members that are absent. -/
def record (members : List (String × Option Json)) : Json :=
  .object (members.filterMap fun (key, value) => value.map ((key, ·)))

def strings (items : List String) : Json := .array (items.map .string)

def member? (key : String) : Json → Option Json
  | .object members => members.lookup key
  | _ => none

/-- Puts a member into a list sorted by key, in the place of one with the same key. -/
def insertSorted (key : String) (value : Json) : List (String × Json) → List (String × Json)
  | [] => [(key, value)]
  | (other, old) :: rest =>
    if key = other then (key, value) :: rest
    else if key < other then (key, value) :: (other, old) :: rest
    else (other, old) :: insertSorted key value rest

mutual

/-- Each object sorted by key; of equal keys the last one counts. -/
def sorted : Json → Json
  | .array items => .array (sortedItems items)
  | .object members => .object (sortedMembers [] members)
  | value => value

def sortedItems : List Json → List Json
  | [] => []
  | item :: items => sorted item :: sortedItems items

/-- Adds members to sorted ones. -/
def sortedMembers (before : List (String × Json)) : List (String × Json) → List (String × Json)
  | [] => before
  | (key, value) :: members => sortedMembers (insertSorted key (sorted value) before) members

end

end Json

end ApiStyle
