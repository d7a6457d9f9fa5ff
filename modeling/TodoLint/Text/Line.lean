/-!
Physical lines. A line ends with a line feed or with the text; a carriage return right
before that end belongs to the terminator.
-/

namespace TodoLint.Text

/-- A physical line: its body and the characters that end it. -/
structure Line where
  body : List Char
  terminator : List Char
deriving DecidableEq, Repr, Inhabited

namespace Line

def chars (l : Line) : List Char :=
  l.body ++ l.terminator

/-- The line whose characters are `acc` in reverse order followed by `lineFeed`. -/
def close (lineFeed : List Char) : List Char → Line
  | '\r' :: acc => ⟨acc.reverse, '\r' :: lineFeed⟩
  | acc => ⟨acc.reverse, lineFeed⟩

/-- The lines of `acc` in reverse order followed by the text. -/
def splitFrom (acc : List Char) : List Char → List Line
  | [] => if acc.isEmpty then [] else [close [] acc]
  | '\n' :: cs => close ['\n'] acc :: splitFrom [] cs
  | c :: cs => splitFrom (c :: acc) cs

/-- The lines of a text. The empty text has none. -/
def split (cs : List Char) : List Line :=
  splitFrom [] cs

theorem chars_close (lineFeed acc : List Char) :
    (close lineFeed acc).chars = acc.reverse ++ lineFeed := by
  unfold close
  split <;> simp [chars]

theorem flatMap_chars_splitFrom (acc cs : List Char) :
    (splitFrom acc cs).flatMap chars = acc.reverse ++ cs := by
  induction cs generalizing acc with
  | nil =>
      by_cases h : acc = []
      · simp [splitFrom, h]
      · simp [splitFrom, h, chars_close]
  | cons c cs ih =>
      by_cases h : c = '\n'
      · simp [h, splitFrom, chars_close, ih]
      · simp [splitFrom, ih]

/-- The lines of a text hold all its characters in order. -/
theorem flatMap_chars_split (cs : List Char) : (split cs).flatMap chars = cs := by
  simp [split, flatMap_chars_splitFrom]

end Line

end TodoLint.Text
