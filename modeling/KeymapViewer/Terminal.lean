/-!
Lines for a terminal. A line is a row of spans; the styles of a span are
switched on in front of it and stay on until the line ends.
-/

namespace KeymapViewer.Terminal

inductive Style where
  | red
  | green
  | yellow
  | magenta
  | gray
  | bold
  | dim
  | italic
  deriving DecidableEq, Repr

/-- The number of the control sequence that switches a style on. -/
def Style.code : Style → Nat
  | .red => 31
  | .green => 32
  | .yellow => 33
  | .magenta => 35
  | .gray => 90
  | .bold => 1
  | .dim => 2
  | .italic => 3

def control (code : Nat) : String :=
  "\x1b[" ++ toString code ++ "m"

structure Span where
  styles : List Style
  text : String
  deriving DecidableEq, Repr

def Span.plain (text : String) : Span := ⟨[], text⟩

def Span.styled (style : Style) (text : String) : Span := ⟨[style], text⟩

def Span.render (span : Span) : String :=
  String.join (span.styles.map (control ·.code)) ++ span.text

/-- A whole line: its spans, the end of all styles and a line feed. -/
def line (spans : List Span) : String :=
  String.join (spans.map Span.render) ++ control 0 ++ "\n"

end KeymapViewer.Terminal
