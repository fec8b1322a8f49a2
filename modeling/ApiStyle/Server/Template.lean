import ApiStyle.Document.Basic

/-! Server urls with placeholders. A placeholder starts at a brace and ends at the first closing brace after
it, both on one line; everything else stands for itself. All placeholders are replaced at once, so the
values of variables are never looked into. -/

namespace ApiStyle

namespace Template

inductive Piece where
  | literal (character : Char)
  | placeholder (name : List Char)
deriving DecidableEq, Repr

/-- The name up to the closing brace, and the text after it. -/
def closing? : List Char → Option (List Char × List Char)
  | [] => none
  | character :: rest =>
    if character = '\x7d' then some ([], rest)
    else if character = '\n' then none
    else (closing? rest).map fun (name, after) => (character :: name, after)

theorem length_of_closing? {text name after : List Char} (found : closing? text = some (name, after)) :
    after.length < text.length := by
  induction text generalizing name after with
  | nil => simp [closing?] at found
  | cons character rest ih =>
    unfold closing? at found
    split at found
    · obtain ⟨_, rfl⟩ := Prod.mk.inj (Option.some.inj found)
      simp
    · split at found
      · simp at found
      · obtain ⟨⟨inner, left⟩, inside, equal⟩ := Option.map_eq_some_iff.1 found
        obtain ⟨_, rfl⟩ := Prod.mk.inj equal
        have := ih inside
        simp only [List.length_cons]
        omega

/-- The pieces of a template from left to right. -/
def pieces : List Char → List Piece
  | [] => []
  | character :: rest =>
    if character = '\x7b' then
      match _found : closing? rest with
      | some (name, after) => .placeholder name :: pieces after
      | none => .literal character :: pieces rest
    else .literal character :: pieces rest
termination_by text => text.length
decreasing_by
  · have := length_of_closing? _found
    simp only [List.length_cons]
    omega
  · simp
  · simp

end Template

namespace Server

def pieces (server : Server) : List Template.Piece := Template.pieces server.url.toList

/-- The default of a declared variable. -/
def default? (server : Server) (name : List Char) : Option String :=
  (server.bindings.lookup (String.ofList name)).map ServerVariable.default

/-- The placeholders without a variable, one for each occurrence. -/
def undeclared (server : Server) : List String :=
  server.pieces.filterMap fun piece => match piece with
    | .literal _ => none
    | .placeholder name => if (server.default? name).isSome then none else some (String.ofList name)

/-- What a piece stands for. -/
def expand (server : Server) : Template.Piece → List Char
  | .literal character => [character]
  | .placeholder name => ((server.default? name).getD "").toList

/-- The url with the default of each variable in its place. -/
def resolved (server : Server) : String := String.ofList (server.pieces.flatMap server.expand)

end Server

end ApiStyle
