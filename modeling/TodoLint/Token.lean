import TodoLint.Position

/-!
Lexical tokens, classified by what the rules look at.
-/

namespace TodoLint

/-- What a token is to the rules. -/
inductive TokenKind where
  /-- From `#` to the end of its line. -/
  | comment
  /-- A line break that ends no logical line: after a blank line or a line with a comment
  alone, or inside brackets. -/
  | newline
  /-- The end of a logical line of code. -/
  | logicalNewline
  /-- Any piece of code, and the mark at the end of the source. -/
  | other
deriving DecidableEq, Repr, Inhabited

/-- A stretch of the source. A token starts at `start` and ends right before `stop`. -/
structure Token where
  kind : TokenKind
  text : String
  start : Position
  stop : Position
deriving DecidableEq, Repr, Inhabited

namespace Token

def comment (row col : Nat) (text : String) : Token :=
  ⟨.comment, text, ⟨row, col⟩, ⟨row, col + text.length⟩⟩

def isComment (t : Token) : Bool :=
  t.kind == .comment

end Token

end TodoLint
