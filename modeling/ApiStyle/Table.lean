/-! Maps as lists of pairs, in the order in which their keys first came. -/

namespace ApiStyle.Table

/-- Replaces the value of a key in its place, or adds the key at the end. -/
def put (key : String) (value : α) : List (String × α) → List (String × α)
  | [] => [(key, value)]
  | (other, old) :: rest => if other = key then (key, value) :: rest else (other, old) :: put key value rest

/-- Changes the value of a key in its place; of a key that is not there, the default value. -/
def modify [Inhabited α] (key : String) (change : α → α) (table : List (String × α)) : List (String × α) :=
  put key (change ((table.lookup key).getD default)) table

end ApiStyle.Table
