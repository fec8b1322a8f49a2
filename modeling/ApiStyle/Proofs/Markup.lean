import ApiStyle.Text.Entities
import ApiStyle.Text.Split
import Mathlib.Data.List.Basic
import Mathlib.Data.List.TakeWhile

/-! Reading markup. A reader goes from each opening bracket to the next closing one, takes what stands between them
apart at its quotation marks, and undoes the entities. Whatever texts are written as entities, it finds the same
elements and the same texts again. -/

namespace ApiStyle

namespace Text

theorem toList_lines (first : String) (others : List String) :
    ("\n".intercalate (first :: others)).toList = first.toList ++ others.flatMap fun line => '\n' :: line.toList := by
  have joined := intercalate_cons '\n' first.toList (others.map String.toList)
  rw [List.flatMap_map] at joined
  rw [String.toList_intercalate, List.map_cons]
  exact joined

theorem takeWhile_separator {separator : Char} {piece : List Char} (inner : separator ∉ piece) (rest : List Char) :
    (piece ++ separator :: rest).takeWhile (· ≠ separator) = piece := by
  have before : ∀ character ∈ piece, decide (character ≠ separator) = true := by
    intro character member
    exact decide_eq_true fun same => inner (same ▸ member)
  rw [List.takeWhile_append_of_pos before, List.takeWhile_cons_of_neg (by simp), List.append_nil]

theorem dropWhile_separator {separator : Char} {piece : List Char} (inner : separator ∉ piece) (rest : List Char) :
    (piece ++ separator :: rest).dropWhile (· ≠ separator) = separator :: rest := by
  have before : ∀ character ∈ piece, decide (character ≠ separator) = true := by
    intro character member
    exact decide_eq_true fun same => inner (same ▸ member)
  rw [List.dropWhile_append_of_pos before, List.dropWhile_cons_of_neg (by simp)]

namespace Entities

/-- Undoes the five entities. -/
def decodeChars : List Char → List Char
  | '&' :: 'a' :: 'm' :: 'p' :: ';' :: rest => '&' :: decodeChars rest
  | '&' :: 'l' :: 't' :: ';' :: rest => '<' :: decodeChars rest
  | '&' :: 'g' :: 't' :: ';' :: rest => '>' :: decodeChars rest
  | '&' :: 'q' :: 'u' :: 'o' :: 't' :: ';' :: rest => '"' :: decodeChars rest
  | '&' :: 'a' :: 'p' :: 'o' :: 's' :: ';' :: rest => '\'' :: decodeChars rest
  | character :: rest => character :: decodeChars rest
  | [] => []

def decode (text : String) : String := String.ofList (decodeChars text.toList)

theorem not_markup_of_plain {character : Char} (plain : entity? character = none) :
    character ≠ '&' ∧ character ≠ '<' ∧ character ≠ '>' ∧ character ≠ '"' ∧ character ≠ '\'' := by
  refine ⟨?_, ?_, ?_, ?_, ?_⟩
  all_goals
    rintro rfl
    cases plain

private theorem decodeChars_encodeChar (character : Char) (rest : List Char) :
    decodeChars (encodeChar character ++ rest) = character :: decodeChars rest := by
  unfold encodeChar
  split
  next text found =>
    unfold entity? at found
    split at found
    case h_6 => cases found
    all_goals
      obtain rfl := Option.some.inj found
      rfl
  next plain =>
    have noAmpersand := (not_markup_of_plain plain).1
    rw [List.singleton_append, decodeChars]
    all_goals
      rintro _ rfl
      exact absurd rfl noAmpersand

theorem decode_encode (text : String) : decode (encode text) = text := by
  have chars (text : List Char) : decodeChars (text.flatMap encodeChar) = text := by
    induction text with
    | nil => rfl
    | cons character text ih => rw [List.flatMap_cons, decodeChars_encodeChar, ih]
  rw [decode, encode, String.toList_ofList, chars, String.ofList_toList]

private theorem entity_markup_free {source : Char} {text : String} (found : entity? source = some text) :
    (text.toList.all fun character => character ∉ ['<', '>', '"', '\'']) = true := by
  unfold entity? at found
  split at found
  case h_6 => cases found
  all_goals
    obtain rfl := Option.some.inj found
    decide

private theorem not_markup_of_mem_encodeChar {source character : Char} (member : character ∈ encodeChar source) :
    character ≠ '<' ∧ character ≠ '>' ∧ character ≠ '"' ∧ character ≠ '\'' := by
  unfold encodeChar at member
  split at member
  next text found =>
    have free := List.all_eq_true.mp (entity_markup_free found) character member
    simpa using free
  next plain =>
    obtain rfl := List.mem_singleton.mp member
    exact (not_markup_of_plain plain).2

theorem not_markup_of_mem_encode {text : String} {character : Char} (member : character ∈ (encode text).toList) :
    character ≠ '<' ∧ character ≠ '>' ∧ character ≠ '"' ∧ character ≠ '\'' := by
  rw [encode, String.toList_ofList] at member
  obtain ⟨source, _, member⟩ := List.mem_flatMap.mp member
  exact not_markup_of_mem_encodeChar member

/-- Replaces one character by another text. -/
def replaceChar (old : Char) (new text : List Char) : List Char :=
  text.flatMap fun character => if character = old then new else [character]

/-- The characters may be replaced one after another, if the ampersand comes first. -/
theorem encode_eq_replaceChar (text : String) : (encode text).toList =
    replaceChar '\'' "&apos;".toList (replaceChar '"' "&quot;".toList (replaceChar '>' "&gt;".toList
      (replaceChar '<' "&lt;".toList (replaceChar '&' "&amp;".toList text.toList)))) := by
  simp only [encode, String.toList_ofList, replaceChar, List.flatMap_assoc]
  refine List.flatMap_congr fun character _ => ?_
  unfold encodeChar
  split
  next text found =>
    unfold entity? at found
    split at found
    case h_6 => cases found
    all_goals
      obtain rfl := Option.some.inj found
      rfl
  next plain =>
    obtain ⟨ampersand, opening, closing, double, single⟩ := not_markup_of_plain plain
    simp only [if_neg ampersand, if_neg opening, if_neg closing, if_neg double, if_neg single,
      List.flatMap_singleton]

theorem encode_of_plain {text : String} (plain : text.toList.all fun character => (entity? character).isNone) :
    encode text = text := by
  have kept : text.toList.flatMap encodeChar = text.toList.flatMap fun character => [character] := by
    refine List.flatMap_congr fun character member => ?_
    rw [encodeChar, Option.isNone_iff_eq_none.mp (List.all_eq_true.mp plain character member)]
  rw [encode, kept, List.flatMap_singleton', String.ofList_toList]

end Entities

end Text

namespace Markup

open Text

/-- What stands between an opening bracket and the next closing one, with the text before it. -/
structure Tag where
  before : List Char
  inside : List Char

/-- The tags of a text, and what is left behind the last one. -/
def tags (text : List Char) : List Tag × List Char :=
  match _ : text.dropWhile (· ≠ '<') with
  | [] => ([], text)
  | _ :: rest =>
    let (others, left) := tags (rest.dropWhile (· ≠ '>')).tail
    (⟨text.takeWhile (· ≠ '<'), rest.takeWhile (· ≠ '>')⟩ :: others, left)
termination_by text.length
decreasing_by
  have shorter : (text.dropWhile (· ≠ '<')).length ≤ text.length := (List.dropWhile_sublist _).length_le
  have inner : (rest.dropWhile (· ≠ '>')).length ≤ rest.length := (List.dropWhile_sublist _).length_le
  rw [‹text.dropWhile _ = _›, List.length_cons] at shorter
  rw [List.length_tail]
  omega

private theorem tags_append {before inside : List Char} (outer : '<' ∉ before) (inner : '>' ∉ inside)
    (rest : List Char) :
    tags (before ++ '<' :: (inside ++ '>' :: rest)) = (⟨before, inside⟩ :: (tags rest).1, (tags rest).2) := by
  rw [tags]
  split
  next none =>
    rw [dropWhile_separator outer] at none
    cases none
  next opened =>
    rw [dropWhile_separator outer] at opened
    obtain ⟨_, rfl⟩ := List.cons.inj opened
    simp only [takeWhile_separator outer, takeWhile_separator inner, dropWhile_separator inner, List.tail_cons]

/-- What the inside of a tag says: a name, attributes with their values decoded, and what stands behind them. -/
structure Element where
  name : String
  attributes : List (String × String)
  ending : String
deriving DecidableEq, Repr

/-- The name of an attribute stands between a blank and an equals sign. -/
def label? : List Char → Option String
  | ' ' :: text => if text.getLast? = some '=' then some (String.ofList text.dropLast) else none
  | _ => none

/-- Labels and values take turns. -/
def attributes? : List (List Char) → Option (List (String × String) × String)
  | [] => none
  | [ending] => some ([], String.ofList ending)
  | label :: value :: rest => do
    let name ← label? label
    let (others, ending) ← attributes? rest
    return ((name, Entities.decode (String.ofList value)) :: others, ending)

def element? (inside : List Char) : Option Element := do
  let (attributes, ending) ← attributes? (pieces '"' (inside.dropWhile (· ≠ ' ')))
  return ⟨String.ofList (inside.takeWhile (· ≠ ' ')), attributes, ending⟩

/-- A text that consists of tags: their elements, each with the decoded text before it. -/
def read (text : String) : Option (List (String × Element)) :=
  match tags text.toList with
  | (tags, []) => tags.mapM fun tag => return (Entities.decode (String.ofList tag.before), ← element? tag.inside)
  | (_, _ :: _) => none

def attributeText (pair : String × String) : List Char :=
  ' ' :: (pair.1.toList ++ '=' :: '"' :: ((Entities.encode pair.2).toList ++ ['"']))

namespace Element

def text (element : Element) : List Char :=
  element.name.toList ++ (element.attributes.flatMap attributeText ++ element.ending.toList)

/-- Names keep clear of what markup is made of. -/
structure IsPlain (element : Element) : Prop where
  name : '>' ∉ element.name.toList ∧ ' ' ∉ element.name.toList
  labels : ∀ pair ∈ element.attributes, '>' ∉ pair.1.toList ∧ '"' ∉ pair.1.toList
  ending : '>' ∉ element.ending.toList ∧ '"' ∉ element.ending.toList
  /-- an ending would be taken for a part of the name -/
  bare : element.attributes = [] → element.ending = ""

end Element

/-- An element in its brackets, behind some text. -/
def written (part : String × Element) : List Char :=
  (Entities.encode part.1).toList ++ '<' :: (part.2.text ++ ['>'])

private theorem label?_append (name : String) : label? (' ' :: (name.toList ++ ['='])) = some name := by
  simp [label?, String.ofList_toList]

private theorem attributes?_text {attributes : List (String × String)} {ending : List Char}
    (labels : ∀ pair ∈ attributes, '"' ∉ pair.1.toList) (plain : '"' ∉ ending) :
    attributes? (pieces '"' (attributes.flatMap attributeText ++ ending)) =
      some (attributes, String.ofList ending) := by
  induction attributes with
  | nil => rw [List.flatMap_nil, List.nil_append, pieces_of_not_mem plain, attributes?]
  | cons pair attributes ih =>
    obtain ⟨label, value⟩ := pair
    obtain ⟨clear, labels⟩ := List.forall_mem_cons.mp labels
    have key : '"' ∉ ' ' :: (label.toList ++ ['=']) := by simpa using clear
    have encoded : '"' ∉ (Entities.encode value).toList := fun member =>
      (Entities.not_markup_of_mem_encode member).2.2.1 rfl
    have cut := pieces_append '"' (' ' :: (label.toList ++ ['=']))
      ((Entities.encode value).toList ++ '"' :: (attributes.flatMap attributeText ++ ending))
    rw [pieces_append '"' (Entities.encode value).toList, pieces_of_not_mem key, pieces_of_not_mem encoded] at cut
    simp only [List.cons_append, List.append_assoc, List.nil_append] at cut
    simp only [List.flatMap_cons, attributeText, List.cons_append, List.append_assoc, List.nil_append]
    rw [cut, attributes?, label?_append, ih labels, String.ofList_toList, Entities.decode_encode]
    rfl

private theorem element?_text {element : Element} (plain : element.IsPlain) : element? element.text = some element := by
  obtain ⟨name, attributes, ending⟩ := element
  have read := attributes?_text (fun pair member => (plain.labels pair member).2) plain.ending.2
  have cut : (name.toList ++ (attributes.flatMap attributeText ++ ending.toList)).takeWhile (· ≠ ' ') = name.toList ∧
      (name.toList ++ (attributes.flatMap attributeText ++ ending.toList)).dropWhile (· ≠ ' ') =
        attributes.flatMap attributeText ++ ending.toList := by
    cases attributes with
    | nil =>
      obtain rfl : ending = "" := plain.bare rfl
      have whole : ∀ character ∈ name.toList, decide (character ≠ ' ') = true := by
        intro character member
        exact decide_eq_true fun same => plain.name.2 (same ▸ member)
      have none : [].flatMap attributeText ++ "".toList = [] := rfl
      rw [none, List.append_nil]
      exact ⟨List.takeWhile_eq_self_iff.mpr whole, List.dropWhile_eq_nil_iff.mpr whole⟩
    | cons pair attributes =>
      exact ⟨takeWhile_separator plain.name.2 _, dropWhile_separator plain.name.2 _⟩
  rw [element?, Element.text, cut.1, cut.2, read, String.ofList_toList, String.ofList_toList]
  rfl

private theorem not_mem_text {element : Element} (plain : element.IsPlain) : '>' ∉ element.text := by
  intro member
  simp only [Element.text, List.mem_append] at member
  rcases member with name | attributes | ending
  · exact plain.name.1 name
  · obtain ⟨⟨label, value⟩, present, member⟩ := List.mem_flatMap.mp attributes
    have clear := (plain.labels _ present).1
    have encoded : '>' ∉ (Entities.encode value).toList := fun member =>
      (Entities.not_markup_of_mem_encode member).2.1 rfl
    simp [attributeText, clear, encoded] at member
  · exact plain.ending.1 ending

private theorem tags_written {parts : List (String × Element)} (plain : ∀ part ∈ parts, part.2.IsPlain) :
    tags (parts.flatMap written) = (parts.map fun part => ⟨(Entities.encode part.1).toList, part.2.text⟩, []) := by
  induction parts with
  | nil =>
    rw [tags]
    rfl
  | cons part parts ih =>
    obtain ⟨first, plain⟩ := List.forall_mem_cons.mp plain
    have outer : '<' ∉ (Entities.encode part.1).toList := fun member =>
      (Entities.not_markup_of_mem_encode member).1 rfl
    rw [List.flatMap_cons, written, List.append_assoc, List.cons_append, List.append_assoc, List.singleton_append,
      tags_append outer (not_mem_text first), ih plain, List.map_cons]

/-- Whatever the texts are, what was written is read. -/
theorem read_written {parts : List (String × Element)} (plain : ∀ part ∈ parts, part.2.IsPlain) :
    read (String.ofList (parts.flatMap written)) = some parts := by
  rw [read, String.toList_ofList, tags_written plain]
  dsimp only
  induction parts with
  | nil => rfl
  | cons part parts ih =>
    obtain ⟨first, plain⟩ := List.forall_mem_cons.mp plain
    rw [List.map_cons, List.mapM_cons, ih plain, element?_text first, String.ofList_toList, Entities.decode_encode]
    rfl

end Markup

end ApiStyle
