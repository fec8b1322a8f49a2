import ApiStyle.Proofs.Compliance
import ApiStyle.Proofs.Logging

/-! Server templates and what becomes of them. A template is put together from literal characters and placeholders in
exactly one way that reads it from left to right, and all its placeholders are replaced at once. The main statement says
what the pass over the servers reports for a server: the placeholders without a variable, or else whether the resolved
url is well formed. -/

namespace ApiStyle

namespace Template

/-- A piece as it is written. -/
def Piece.text : Piece → List Char
  | .literal character => [character]
  | .placeholder name => '\x7b' :: (name ++ ['\x7d'])

theorem text_placeholder_append (name rest : List Char) :
    (Piece.placeholder name).text ++ rest = '\x7b' :: (name ++ '\x7d' :: rest) := by
  simp [Piece.text]

private theorem flatMap_text_literals (text : List Char) : (text.map Piece.literal).flatMap Piece.text = text := by
  rw [List.flatMap_map]
  exact List.flatMap_singleton' text

/-- Behind an opening brace: a closing brace follows on the same line. -/
def Closes (text : List Char) : Prop := ∃ name after, text = name ++ '\x7d' :: after ∧ '\n' ∉ name

def HasPlaceholder (text : List Char) : Prop := ∃ before rest, text = before ++ '\x7b' :: rest ∧ Closes rest

/-- A template cut into literal characters and placeholders. A placeholder ends at the first closing brace, on its line,
and an opening brace stands for itself only if no closing brace follows on its line. -/
structure Decomposes (template : List Char) (pieces : List Piece) : Prop where
  written : pieces.flatMap Piece.text = template
  names : ∀ name, .placeholder name ∈ pieces → '\x7d' ∉ name ∧ '\n' ∉ name
  literals : ∀ before after, pieces = before ++ .literal '\x7b' :: after → ¬ Closes (after.flatMap Piece.text)

private theorem closing?_append {name : List Char} (unclosed : '\x7d' ∉ name) (line : '\n' ∉ name) (after : List Char) :
    closing? (name ++ '\x7d' :: after) = some (name, after) := by
  induction name with
  | nil => simp [closing?]
  | cons character rest ih =>
    rw [List.mem_cons, not_or] at unclosed line
    rw [List.cons_append, closing?, if_neg (Ne.symm unclosed.1), if_neg (Ne.symm line.1), ih unclosed.2 line.2]
    rfl

theorem eq_append_of_closing? {text name after : List Char} (found : closing? text = some (name, after)) :
    text = name ++ '\x7d' :: after ∧ '\x7d' ∉ name ∧ '\n' ∉ name := by
  induction text generalizing name after with
  | nil => cases found
  | cons character rest ih =>
    rw [closing?] at found
    split at found
    next closes =>
      obtain ⟨rfl, rfl⟩ := Prod.mk.inj (Option.some.inj found)
      exact ⟨congrArg (· :: rest) closes, List.not_mem_nil, List.not_mem_nil⟩
    next open_ =>
      split at found
      next => cases found
      next line =>
        obtain ⟨⟨inner, left⟩, inside, equal⟩ := Option.map_eq_some_iff.mp found
        obtain ⟨rfl, rfl⟩ := Prod.mk.inj equal
        obtain ⟨rfl, unclosed, sameLine⟩ := ih inside
        refine ⟨rfl, ?_, ?_⟩
        · rw [List.mem_cons, not_or]
          exact ⟨Ne.symm open_, unclosed⟩
        · rw [List.mem_cons, not_or]
          exact ⟨Ne.symm line, sameLine⟩

theorem closing?_eq_none {text : List Char} : closing? text = none ↔ ¬ Closes text := by
  constructor
  · rintro unclosed ⟨name, after, rfl, line⟩
    induction name with
    | nil => simp [closing?] at unclosed
    | cons character rest ih =>
      rw [List.mem_cons, not_or] at line
      rw [List.cons_append, closing?, if_neg (Ne.symm line.1)] at unclosed
      split at unclosed
      next => cases unclosed
      next => exact ih line.2 (Option.map_eq_none_iff.mp unclosed)
  · intro never
    cases found : closing? text with
    | none => rfl
    | some pair =>
      obtain ⟨equal, _, line⟩ := eq_append_of_closing? found
      exact absurd ⟨pair.1, pair.2, equal, line⟩ never

private theorem pieces_placeholder {rest name after : List Char} (closes : closing? rest = some (name, after)) :
    pieces ('\x7b' :: rest) = .placeholder name :: pieces after := by
  rw [pieces, if_pos rfl]
  split
  next found =>
    obtain ⟨rfl, rfl⟩ := Prod.mk.inj (Option.some.inj (closes.symm.trans found))
    rfl
  next missing => cases closes.symm.trans missing

private theorem pieces_literal {character : Char} {rest : List Char}
    (stays : character = '\x7b' → closing? rest = none) :
    pieces (character :: rest) = .literal character :: pieces rest := by
  rw [pieces]
  split
  next brace =>
    split
    next found => cases (stays brace).symm.trans found
    next => rfl
  next => rfl

namespace Decomposes

private theorem nil : Decomposes [] [] where
  written := rfl
  names _ member := by cases member
  literals before after equal := by
    cases before <;> cases equal

private theorem placeholder {name after : List Char} {pieces : List Piece} (unclosed : '\x7d' ∉ name)
    (line : '\n' ∉ name)
    (rest : Decomposes after pieces) :
    Decomposes ('\x7b' :: (name ++ '\x7d' :: after)) (.placeholder name :: pieces) where
  written := by
    rw [List.flatMap_cons, rest.written, text_placeholder_append]
  names other member := by
    rcases List.mem_cons.mp member with same | member
    · obtain rfl := Piece.placeholder.inj same
      exact ⟨unclosed, line⟩
    · exact rest.names other member
  literals before behind equal := by
    cases before with
    | nil => cases equal
    | cons first before => exact rest.literals before behind (List.cons.inj equal).2

private theorem literal {character : Char} {text : List Char} {pieces : List Piece}
    (stays : character = '\x7b' → ¬ Closes text) (rest : Decomposes text pieces) :
    Decomposes (character :: text) (.literal character :: pieces) where
  written := by
    rw [List.flatMap_cons, rest.written]
    rfl
  names other member := by
    rcases List.mem_cons.mp member with same | member
    · cases same
    · exact rest.names other member
  literals before behind equal := by
    cases before with
    | nil =>
      obtain ⟨same, rfl⟩ := List.cons.inj equal
      rw [rest.written]
      exact stays (Piece.literal.inj same)
    | cons first before => exact rest.literals before behind (List.cons.inj equal).2

private theorem tail {template : List Char} {piece : Piece} {pieces : List Piece}
    (decomposes : Decomposes template (piece :: pieces)) : Decomposes (pieces.flatMap Piece.text) pieces where
  written := rfl
  names name member := decomposes.names name (List.mem_cons_of_mem _ member)
  literals before after equal := decomposes.literals (piece :: before) after (congrArg _ equal)

theorem eq_pieces {template : List Char} {cut : List Piece} (decomposes : Decomposes template cut) :
    cut = pieces template := by
  induction cut generalizing template with
  | nil =>
    obtain rfl : [] = template := decomposes.written
    rw [pieces]
  | cons piece cut ih =>
    have rest : cut = pieces (cut.flatMap Piece.text) := ih decomposes.tail
    rw [← decomposes.written, List.flatMap_cons]
    cases piece with
    | literal character =>
      have stays : character = '\x7b' → closing? (cut.flatMap Piece.text) = none := by
        rintro rfl
        exact closing?_eq_none.mpr (decomposes.literals [] cut rfl)
      exact (congrArg _ rest).trans (pieces_literal stays).symm
    | placeholder name =>
      obtain ⟨unclosed, line⟩ := decomposes.names name List.mem_cons_self
      have closes := closing?_append unclosed line (cut.flatMap Piece.text)
      rw [text_placeholder_append, pieces_placeholder closes, ← rest]

end Decomposes

theorem decomposes_pieces (template : List Char) : Decomposes template (pieces template) := by
  fun_induction pieces template with
  | case1 => exact .nil
  | case2 rest name after found ih =>
    obtain ⟨rfl, unclosed, line⟩ := eq_append_of_closing? found
    exact .placeholder unclosed line ih
  | case3 rest missing ih => exact .literal (fun _ => closing?_eq_none.mp missing) ih
  | case4 character rest other ih => exact .literal (fun brace => absurd brace other) ih

private theorem exists_unique_decomposes (template : List Char) : ∃! pieces, Decomposes template pieces :=
  ⟨pieces template, decomposes_pieces template, fun _ decomposes => decomposes.eq_pieces⟩

theorem pieces_of_plain {text : List Char} (plain : ¬ HasPlaceholder text) : pieces text = text.map .literal := by
  symm
  apply Decomposes.eq_pieces
  refine ⟨flatMap_text_literals text, ?_, ?_⟩
  · intro name member
    obtain ⟨_, _, impossible⟩ := List.mem_map.mp member
    cases impossible
  · intro before after equal closes
    obtain ⟨first, last, rfl, _, behind⟩ := List.map_eq_append_iff.mp equal
    obtain ⟨brace, rest, rfl, same, rfl⟩ := List.map_eq_cons_iff.mp behind
    obtain rfl := Piece.literal.inj same
    rw [flatMap_text_literals] at closes
    exact plain ⟨first, rest, rfl, closes⟩

end Template

open Template (Piece Decomposes HasPlaceholder)
open Logging (Adds)

namespace Server

/-- A variable is declared for every placeholder among some pieces. -/
def Declares (server : Server) (pieces : List Piece) : Prop :=
  ∀ name, .placeholder name ∈ pieces → ∃ declared, server.bindings.lookup (String.ofList name) = some declared

/-- What a piece gives way to: a character stands for itself, and a placeholder for the default of its variable. -/
def StandsFor (server : Server) : Piece → List Char → Prop
  | .literal character, text => text = [character]
  | .placeholder name, text =>
    ∃ declared, server.bindings.lookup (String.ofList name) = some declared ∧ text = declared.default.toList

/-- The url with its placeholders replaced. Those without a variable are logged, and then there is no such url. -/
def resolve (server : Server) : Logging (Option (List Char)) := server.pieces.foldlM server.logPiece (some [])

/-- What the resolution of a url comes to and what is found on the way, given the pieces of the url. -/
structure Resolution (config : Config) (server : Server) (pieces : List Piece) (found : List Violation) : Prop where
  complete : server.Declares pieces → ∃ parts, List.Forall₂ server.StandsFor pieces parts ∧
    Adds server.resolve (some parts.flatten) [] ∧
    (found = if String.ofList parts.flatten = "/" ∨ Url.isValid config.extraDomains (String.ofList parts.flatten) then []
      else [.invalidServerUrl (String.ofList parts.flatten)]) ∧
    (¬ HasPlaceholder parts.flatten → Adds (Server.log config { url := String.ofList parts.flatten }) () found)
  incomplete : ¬ server.Declares pieces → ∃ names, names ≠ [] ∧ names = pieces.filterMap server.undeclared? ∧
    Adds server.resolve none (names.map (.undeclaredVariable server.url)) ∧
    found = names.map (.undeclaredVariable server.url)

private theorem declares_iff {server : Server} : server.Declares server.pieces ↔ server.undeclared = [] :=
  undeclared_eq_nil.symm

private theorem standsFor_expand {server : Server} (declared : server.Declares server.pieces) :
    List.Forall₂ server.StandsFor server.pieces (server.pieces.map server.expand) := by
  rw [List.forall₂_map_right_iff, List.forall₂_same]
  intro piece member
  cases piece with
  | literal character => rfl
  | placeholder name =>
    obtain ⟨variable_, found⟩ := declared name member
    refine ⟨variable_, found, ?_⟩
    simp only [expand, default?, found, Option.map_some, Option.getD_some]

private theorem adds_resolve (server : Server) : Adds server.resolve
    (if server.undeclared = [] then some (server.pieces.flatMap server.expand) else none)
    (server.undeclared.map (.undeclaredVariable server.url)) := by
  have logs := server.adds_logPieces server.pieces (some [])
  rw [← undeclared_eq] at logs
  exact logs

theorem check_of_declared {server : Server} (declared : server.undeclared = []) (config : Config) :
    server.check config = if server.resolved = "/" ∨ Url.isValid config.extraDomains server.resolved then []
      else [.invalidServerUrl server.resolved] := by
  simp only [check, declared, Bool.or_eq_true, decide_eq_true_eq]

private theorem check_of_undeclared {server : Server} (missing : server.undeclared ≠ []) (config : Config) :
    server.check config = server.undeclared.map (.undeclaredVariable server.url) := by
  unfold check
  split
  next complete => exact absurd complete missing
  next => rfl

theorem check_of_plain {url : String} (plain : ¬ HasPlaceholder url.toList) (config : Config) :
    Server.check config { url } = if url = "/" ∨ Url.isValid config.extraDomains url then []
      else [.invalidServerUrl url] := by
  have literals : ({ url } : Server).pieces = url.toList.map .literal := Template.pieces_of_plain plain
  have declared : ({ url } : Server).undeclared = [] := by
    rw [undeclared_eq, literals, List.filterMap_map, List.filterMap_eq_nil_iff]
    intro character _
    rfl
  have same : ({ url } : Server).resolved = url := by
    rw [resolved, literals, List.flatMap_map]
    exact (congrArg String.ofList (List.flatMap_singleton' url.toList)).trans String.ofList_toList
  rw [check_of_declared declared, same]

private theorem resolution (config : Config) (server : Server) :
    server.Resolution config server.pieces (server.check config) := by
  have resolves := server.adds_resolve
  constructor
  · intro declares
    have declared : server.undeclared = [] := declares_iff.mp declares
    rw [if_pos declared, declared] at resolves
    have text : (server.pieces.map server.expand).flatten = server.pieces.flatMap server.expand :=
      List.flatMap_def.symm
    refine ⟨server.pieces.map server.expand, standsFor_expand declares, ?_, ?_, ?_⟩
    · rw [text]
      exact resolves
    · rw [text]
      exact check_of_declared declared config
    · rw [text]
      intro plain
      have found := check_of_declared declared config
      rw [resolved, ← check_of_plain (by rwa [String.toList_ofList])] at found
      rw [found]
      exact adds_log config _
  · intro misses
    have missing : server.undeclared ≠ [] := fun declared => misses (declares_iff.mpr declared)
    rw [if_neg missing] at resolves
    exact ⟨server.undeclared, missing, rfl, resolves, check_of_undeclared missing config⟩

end Server

/-- A template is cut into literal characters and placeholders in one way. For each server in turn, the pass logs either
every placeholder without a variable, or else at most that the url with all placeholders replaced is not well formed; and
this url counts as if it had been written out, unless it happens to hold a placeholder itself. -/
theorem servers_report_resolution (subject : Subject) (sink : Sink) :
    (∀ template, ∃! pieces, Decomposes template pieces) ∧
    ∃ reports : List (List Violation),
      ((Pass.servers.log subject).run sink).2.violations = sink.violations ++ reports.flatten ∧
      List.Forall₂ (fun server found => Adds (Server.log subject.config server) () found ∧
        ∃ pieces, Decomposes server.url.toList pieces ∧ server.Resolution subject.config pieces found)
        subject.document.servers reports := by
  refine ⟨Template.exists_unique_decomposes, subject.document.servers.map (·.check subject.config), ?_, ?_⟩
  · rw [Pass.adds_log .servers subject sink, Sink.violations_logAll, ← List.flatMap_def]
    rfl
  · rw [List.forall₂_map_right_iff, List.forall₂_same]
    intro server _
    exact ⟨server.adds_log subject.config, server.pieces, Template.decomposes_pieces _,
      server.resolution subject.config⟩

end ApiStyle
