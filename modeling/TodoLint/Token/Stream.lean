import TodoLint.Text.Line
import TodoLint.Token
import TodoLint.Token.Lexeme

/-!
The tokens of a source. The source is read line by line; `Carry` is all that one line
leaves to the next. Indentation and other white space give no tokens, every line break
gives one unless a string literal or a backslash joins its line to the next, and an empty
token marks the end of the source.
-/

namespace TodoLint

open Text

/-- A string literal with three quotes that began on an earlier line. -/
structure OpenString where
  quote : Char
  start : Position
  text : List Char
deriving DecidableEq, Repr

/-- What the lines read so far mean for the next one. -/
structure Carry where
  /-- How many brackets are open. -/
  depth : Nat := 0
  /-- Code was seen after the last end of a logical line. -/
  logicalOpen : Bool := false
  /-- The string literal in whose middle the next line begins. -/
  pending : Option OpenString := none
deriving DecidableEq, Repr

/-- The number of open brackets after a piece of code. A closing bracket that closes
nothing counts for nothing. -/
def depthAfter (depth : Nat) (piece : List Char) : Nat :=
  match piece with
  | ['('] | ['['] | ['{'] => depth + 1
  | [')'] | [']'] | ['}'] => depth - 1
  | _ => depth

/-- The tokens of a part of a line, and what they mean for what follows. -/
structure LineScan where
  tokens : List Token
  carry : Carry
  /-- The next line continues this one, so that no line break stands between them. -/
  joined : Bool
deriving DecidableEq, Repr

/-- Reads the rest of a line as code, from the column `col` of `row` on. -/
def scanCode (row : Nat) (terminator : List Char) (col : Nat) (carry : Carry) :
    List Char → LineScan
  | [] => ⟨[], carry, false⟩
  | c :: cs =>
      match _h : Lexeme.read c cs with
      | .blank => scanCode row terminator (col + 1) carry cs
      | .comment => ⟨[.comment row col (String.ofList (c :: cs))], carry, false⟩
      | .continuation => ⟨[], carry, true⟩
      | .piece text rest =>
          let token : Token :=
            ⟨.other, String.ofList text, ⟨row, col⟩, ⟨row, col + text.length⟩⟩
          let next := scanCode row terminator (col + text.length)
            { carry with depth := depthAfter carry.depth text, logicalOpen := true } rest
          { next with tokens := token :: next.tokens }
      | .unclosed quote =>
          let opened : OpenString := ⟨quote, ⟨row, col⟩, c :: cs ++ terminator⟩
          ⟨[], { carry with logicalOpen := true, pending := some opened }, true⟩
termination_by cs => cs.length
decreasing_by
  · simp
  · have := Lexeme.length_rest_le _h
    simp only [List.length_cons]
    omega

/-- Reads a line whose start may lie in a string literal. -/
def scanBody (row : Nat) (line : Line) (carry : Carry) : LineScan :=
  match carry.pending with
  | none => scanCode row line.terminator 1 carry line.body
  | some opened =>
      match closeTriple opened.quote line.body with
      | some (part, rest) =>
          let token : Token :=
            ⟨.other, String.ofList (opened.text ++ part), opened.start,
              ⟨row, part.length + 1⟩⟩
          let next := scanCode row line.terminator (part.length + 1)
            { carry with logicalOpen := true, pending := none } rest
          { next with tokens := token :: next.tokens }
      | none =>
          let longer := { opened with text := opened.text ++ line.chars }
          ⟨[], { carry with pending := some longer }, true⟩

/-- The line break at the end of a line. It ends a logical line if code was seen and no
bracket is open. -/
def breakAfter (row : Nat) (line : Line) (carry : Carry) : Token × Carry :=
  let logical := carry.logicalOpen && carry.depth == 0
  let col := line.body.length + 1
  (⟨if logical then .logicalNewline else .newline, String.ofList line.terminator,
      ⟨row, col⟩, ⟨row, col + 1⟩⟩,
    { carry with logicalOpen := carry.logicalOpen && !logical })

/-- The tokens of a line, and what it leaves to the next one. -/
def scanLine (row : Nat) (line : Line) (carry : Carry) : List Token × Carry :=
  let scan := scanBody row line carry
  if scan.joined then (scan.tokens, scan.carry)
  else
    let (lineBreak, after) := breakAfter row line scan.carry
    (scan.tokens ++ [lineBreak], after)

/-- The tokens of consecutive lines, the first of which is `row`. -/
def scanLines (row : Nat) (carry : Carry) : List Line → List Token × Carry
  | [] => ([], carry)
  | line :: lines =>
      let (tokens, after) := scanLine row line carry
      let (rest, final) := scanLines (row + 1) after lines
      (tokens ++ rest, final)

/-- The mark at the end of a source of `rows` lines. -/
def endMark (rows : Nat) : Token :=
  ⟨.other, "", ⟨rows + 1, 1⟩, ⟨rows + 1, 1⟩⟩

/-- The source ends inside a string literal that was opened on `row`. -/
structure UnclosedString where
  row : Nat
deriving DecidableEq, Repr

/-- The tokens of a source. -/
def tokenize (source : String) : Except UnclosedString (List Token) :=
  let lines := Line.split source.toList
  let (tokens, final) := scanLines 1 {} lines
  match final.pending with
  | some opened => .error ⟨opened.start.row⟩
  | none => .ok (tokens ++ [endMark lines.length])

end TodoLint
