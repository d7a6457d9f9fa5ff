import TodoLint.Text.Substring

/-!
Colours and weights of printed text, as terminal control sequences.
-/

namespace TodoLint.Report

open Text

/-- How a piece of text is printed: the numbers of its control sequence. -/
structure Style where
  codes : String
deriving DecidableEq, Repr

namespace Style

/-- Less bright than other text. -/
def dimmed : Style := ⟨"2"⟩

/-- Bold. -/
def bold : Style := ⟨"1"⟩

/-- Yellow. -/
def yellow : Style := ⟨"33"⟩

/-- Cyan. -/
def cyan : Style := ⟨"36"⟩

/-- Bold and yellow. -/
def boldYellow : Style := ⟨"1;33"⟩

/-- Bold and red. -/
def boldRed : Style := ⟨"1;31"⟩

/-- Bold and green. -/
def boldGreen : Style := ⟨"1;32"⟩

/-- The control sequence that begins a style. -/
def start (s : Style) : String :=
  "\x1b[" ++ s.codes ++ "m"

/-- The control sequence that ends every style. -/
def reset : String :=
  "\x1b[0m"

/-- The text with `again` after each control sequence in it that ends a style. -/
def resume (again : String) (text : String) : String :=
  String.intercalate (reset ++ again) (text.splitOn reset)

/-- The text in a style, or as it is when colours are off. A style ended inside the text
is begun again. -/
def paint (s : Style) (color : Bool) (text : String) : String :=
  if color then s.start ++ resume s.start text ++ reset else text

/-- The text filled up with spaces to a width. -/
def padded (width : Nat) (text : String) : String :=
  text ++ String.ofList (List.replicate (width - text.length) ' ')

/-- The text filled up to a width and in a style. -/
def paintPadded (s : Style) (color : Bool) (width : Nat) (text : String) : String :=
  if color then s.start ++ padded width (resume s.start text) ++ reset else padded width text

/-- Output is in colours if they are forced, and else on a terminal unless they are refused.
The settings are the values of environment variables; `0` means no. -/
def wanted (force refuse allow : Option String) (terminal : Bool) : Bool :=
  if force.any (· ≠ "0") then true
  else if refuse.isSome then false
  else terminal && allow ≠ some "0"

end Style

end TodoLint.Report
