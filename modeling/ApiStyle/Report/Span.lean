/-! Text with styles, as a terminal shows it. A styled piece of text is wrapped in escape sequences even if it is
empty; without colours the sequences are left out and nothing else changes. -/

namespace ApiStyle

inductive Style where
  | bold | dim | red | green | yellow | cyan
deriving DecidableEq, Repr

namespace Style

def code : Style → String
  | bold => "1"
  | dim => "2"
  | red => "31"
  | green => "32"
  | yellow => "33"
  | cyan => "36"

end Style

structure Span where
  text : String
  style : Option Style := none
deriving DecidableEq, Repr

namespace Span

def render (colours : Bool) (span : Span) : String :=
  match span.style with
  | some style => if colours then "\x1b[" ++ style.code ++ "m" ++ span.text ++ "\x1b[0m" else span.text
  | none => span.text

end Span

end ApiStyle
