import ApiStyle.Files.Lookup
import ApiStyle.Table

/-! Directory trees held in memory, for runs that do not touch a disk. -/

namespace ApiStyle

inductive Tree where
  | file (text : Except Unreadable String)
  | folder (entries : List (String × Tree))
deriving Inhabited

namespace Tree

/-- Hangs a tree in at the end of a list of names, with folders on the way where there are none. -/
def insert : Tree → List String → Tree → Tree
  | _, [], leaf => leaf
  | folder entries, name :: names, leaf =>
    folder (Table.put name (insert ((entries.lookup name).getD (folder [])) names leaf) entries)
  | file _, name :: names, leaf => folder [(name, insert (folder []) names leaf)]

/-- Follows names from a tree whose enclosing folders are given innermost first. A file leads nowhere,
not even to itself. -/
def walk : List Tree → Tree → List String → Option Tree
  | _, here, [] => some here
  | _, file _, _ :: _ => none
  | above, folder entries, name :: names =>
    if name = "" ∨ name = "." then walk above (folder entries) names
    else if name = ".." then
      match above with
      | [] => walk [] (folder entries) names
      | outer :: above => walk above outer names
    else match entries.lookup name with
      | none => none
      | some next => walk (folder entries :: above) next names

/-- What a path leads to, seen from a directory of the tree. -/
def look (tree : Tree) (directory : Directory) (path : Path) : Lookup :=
  if path.text.isEmpty then none
  else match tree.walk [] (directory.path.join path).names with
    | none => none
    | some (folder _) => some (.error .directory)
    | some (file text) => some text

end Tree

end ApiStyle
