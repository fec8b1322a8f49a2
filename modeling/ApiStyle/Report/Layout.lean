import ApiStyle.Report.Span

/-! Reports for people, built line by line. -/

namespace ApiStyle

structure Layout where
  lines : List (List Span) := []
deriving DecidableEq, Repr, Inhabited

namespace Layout

/-- The width that keys are padded to. -/
def keyWidth : Nat := 18

def padded (text : String) : String := text ++ String.ofList (List.replicate (keyWidth - text.length) ' ')

def add (layout : Layout) (line : List Span) : Layout := ⟨layout.lines ++ [line]⟩

def line (layout : Layout) (text : String) : Layout := layout.add [⟨text, none⟩]

def blank (layout : Layout) : Layout := layout.add []

def title (layout : Layout) (text : String) : Layout := (layout.add [⟨text, some .bold⟩]).blank

/-- A heading, underlined by as many dashes as its text has bytes and at least three. -/
def heading (layout : Layout) (text : String) : Layout :=
  (layout.add [⟨text, some .bold⟩]).line (String.ofList (List.replicate (max text.utf8ByteSize 3) '-'))

def pair (layout : Layout) (key value : String) : Layout :=
  layout.add [⟨padded key, some .dim⟩, ⟨" " ++ value, none⟩]

def bullet (layout : Layout) (text : String) : Layout := layout.line ("- " ++ text)

def lineText (colours : Bool) (line : List Span) : String := String.join (line.map (Span.render colours))

/-- The text of a report; its last line is not ended. -/
def text (colours : Bool) (layout : Layout) : String :=
  "\n".intercalate (layout.lines.map (lineText colours))

end Layout

end ApiStyle
