/-! TOML trees. A table remembers how it came about, because that decides what may still be added to it.
Places are counted from the end of the text, so that they can be told without the text before. -/

namespace ApiStyle.Toml

/-- Characters from here to the end of the text. -/
abbrev Place := Nat

/-- Why a text is not TOML. -/
structure Malformed where
  place : Place
deriving DecidableEq, Repr

structure Key where
  name : String
  place : Place
deriving DecidableEq, Repr

inductive Origin where
  /-- by a header of its own -/
  | header
  /-- by the header of a table inside it -/
  | implied
  /-- by a dotted key -/
  | dotted
  /-- by braces, so nothing can be added -/
  | inline
deriving DecidableEq, Repr

inductive Item where
  | string (text : String)
  | integer (value : Int)
  | float (value : Float)
  /-- digits whose value is beyond all floats -/
  | beyond
  | bool (value : Bool)
  | moment
  | array (items : List (Place × Item))
  /-- tables that were added one by one with headers of their own -/
  | tables (items : List (Place × List (Key × Place × Item)))
  | table (origin : Origin) (entries : List (Key × Place × Item))
deriving Inhabited

abbrev Entries := List (Key × Place × Item)

namespace Entries

def get? (name : String) (entries : Entries) : Option (Place × Item) :=
  (List.find? (fun entry => entry.1.name = name) entries).map Prod.snd

/-- Replaces the value of a key, or adds the key. -/
def put (key : Key) (place : Place) (item : Item) : Entries → Entries
  | [] => [(key, place, item)]
  | (other, held) :: rest =>
    if other.name = key.name then (other, place, item) :: rest else (other, held) :: put key place item rest

/-- Changes the table at a path. On the way a missing table is made, and of an array of tables the last one
counts. By a dotted key, a table with a header of its own cannot be reached. -/
def modify (dotted : Bool) (change : Origin → Entries → Except Malformed Entries) :
    List Key → Origin → Entries → Except Malformed Entries
  | [], origin, entries => change origin entries
  | key :: path, _, entries => do
    let fresh : Origin := if dotted then .dotted else .implied
    match get? key.name entries with
    | none => return put key key.place (.table fresh (← modify dotted change path fresh [])) entries
    | some (place, .table origin inner) =>
      if origin = .inline ∨ (dotted ∧ origin = .header) then throw ⟨key.place⟩
      return put key place (.table origin (← modify dotted change path origin inner)) entries
    | some (place, .tables items) =>
      match items.getLast? with
      | none => throw ⟨key.place⟩
      | some (start, inner) =>
        let inner ← modify dotted change path .header inner
        return put key place (.tables (items.dropLast ++ [(start, inner)])) entries
    | some _ => throw ⟨key.place⟩

/-- Adds a key with its value below a dotted path. The table it goes to must have been made by dotted keys
if and only if there is such a path. -/
def assign (path : List Key) (key : Key) (place : Place) (item : Item) : Origin → Entries → Except Malformed Entries :=
  modify true (fun origin entries =>
    if decide (origin = .dotted) == path.isEmpty then throw ⟨key.place⟩
    else if (get? key.name entries).isSome then throw ⟨key.place⟩
    else return entries ++ [(key, place, item)]) path

/-- Opens a table with a header of its own, which only an implied one can already have. -/
def openTable (path : List Key) (key : Key) : Entries → Except Malformed Entries :=
  modify false (fun _ entries =>
    match get? key.name entries with
    | none => return entries ++ [(key, key.place, .table .header [])]
    | some (place, .table .implied inner) => return put key place (.table .header inner) entries
    | some _ => throw ⟨key.place⟩) path .header

/-- Adds a table to an array of tables. -/
def openArray (path : List Key) (key : Key) : Entries → Except Malformed Entries :=
  modify false (fun _ entries =>
    match get? key.name entries with
    | none => return entries ++ [(key, key.place, .tables [(key.place, [])])]
    | some (place, .tables items) => return put key place (.tables (items ++ [(key.place, [])])) entries
    | some _ => throw ⟨key.place⟩) path .header

end Entries

end ApiStyle.Toml
