import TodoLint.Text.Numeral
import TodoLint.Text.Reading

/-!
String and integer literals of configuration documents. A reader takes the text at its
start and gives the value and the text after it, or nothing if the literal is malformed.
Strings have four forms: in double quotes with escapes or in single quotes without, each on
one line with one quote or over several lines with three.
-/

namespace TodoLint.Config.Literal

open Text

/-- A character that may stand in a comment or, quotes and backslashes apart, in a string:
a tab or no control character. -/
def isPlain (c : Char) : Bool :=
  c = '\t' || (0x20 ≤ c.toNat && c.toNat ≠ 0x7F)

/-- The character of a list of hexadecimal digits, if it is a scalar value of Unicode. -/
def ofHex? (digits : List Char) : Option Char := do
  let n ← digits.foldlM (fun n c => (digit? 16 c).map (16 * n + ·)) 0
  if n < 0xD800 ∨ (0xDFFF < n ∧ n < 0x110000) then some (Char.ofNat n) else none

/-- The character of an escape of one letter. -/
def escape? (c : Char) : Option Char :=
  match c with
  | 'b' => some '\x08'
  | 't' => some '\t'
  | 'n' => some '\n'
  | 'f' => some '\x0c'
  | 'r' => some '\r'
  | '"' => some '"'
  | '\\' => some '\\'
  | _ => none

/-- The rest of a string on one line in double quotes, after the first quote. -/
def basicLine : List Char → Reading (List Char)
  | [] => none
  | '"' :: cs => some ([], cs)
  | '\\' :: 'u' :: a :: b :: c :: d :: cs =>
      match ofHex? [a, b, c, d] with
      | some u => (basicLine cs).cons u
      | none => none
  | '\\' :: 'U' :: a :: b :: c :: d :: e :: f :: g :: h :: cs =>
      match ofHex? [a, b, c, d, e, f, g, h] with
      | some u => (basicLine cs).cons u
      | none => none
  | '\\' :: c :: cs =>
      match escape? c with
      | some u => (basicLine cs).cons u
      | none => none
  | c :: cs => if isPlain c ∧ c ≠ '\\' then (basicLine cs).cons c else none

/-- The rest of a string on one line in single quotes, after the first quote. -/
def literalLine : List Char → Reading (List Char)
  | [] => none
  | '\'' :: cs => some ([], cs)
  | c :: cs => if isPlain c then (literalLine cs).cons c else none

/-- Where a string over several lines is after a backslash at the end of a line. -/
inductive Fold where
  /-- In the text: no such backslash is at work. -/
  | text
  /-- After the backslash, where the line has to end. -/
  | trailing
  /-- After the line break, where white space is left out. -/
  | leading

/-- The rest of a string over several lines in double quotes. At most two quotes stand
right before the three that end it. -/
def basicBlock : Fold → List Char → Reading (List Char)
  | _, [] => none
  | .trailing, ' ' :: cs => basicBlock .trailing cs
  | .trailing, '\t' :: cs => basicBlock .trailing cs
  | .trailing, '\n' :: cs => basicBlock .leading cs
  | .trailing, '\r' :: '\n' :: cs => basicBlock .leading cs
  | .trailing, _ :: _ => none
  | .leading, ' ' :: cs => basicBlock .leading cs
  | .leading, '\t' :: cs => basicBlock .leading cs
  | .leading, '\n' :: cs => basicBlock .leading cs
  | .leading, '\r' :: '\n' :: cs => basicBlock .leading cs
  | _, '"' :: '"' :: '"' :: '"' :: '"' :: cs => some (['"', '"'], cs)
  | _, '"' :: '"' :: '"' :: '"' :: cs => some (['"'], cs)
  | _, '"' :: '"' :: '"' :: cs => some ([], cs)
  | _, '\\' :: ' ' :: cs => basicBlock .trailing cs
  | _, '\\' :: '\t' :: cs => basicBlock .trailing cs
  | _, '\\' :: '\n' :: cs => basicBlock .leading cs
  | _, '\\' :: '\r' :: '\n' :: cs => basicBlock .leading cs
  | _, '\\' :: 'u' :: a :: b :: c :: d :: cs =>
      match ofHex? [a, b, c, d] with
      | some u => (basicBlock .text cs).cons u
      | none => none
  | _, '\\' :: 'U' :: a :: b :: c :: d :: e :: f :: g :: h :: cs =>
      match ofHex? [a, b, c, d, e, f, g, h] with
      | some u => (basicBlock .text cs).cons u
      | none => none
  | _, '\\' :: c :: cs =>
      match escape? c with
      | some u => (basicBlock .text cs).cons u
      | none => none
  | _, '\n' :: cs => (basicBlock .text cs).cons '\n'
  | _, '\r' :: '\n' :: cs => (basicBlock .text cs).cons '\n'
  | _, c :: cs => if isPlain c ∧ c ≠ '\\' then (basicBlock .text cs).cons c else none

/-- The rest of a string over several lines in single quotes. -/
def literalBlock : List Char → Reading (List Char)
  | [] => none
  | '\'' :: '\'' :: '\'' :: '\'' :: '\'' :: cs => some (['\'', '\''], cs)
  | '\'' :: '\'' :: '\'' :: '\'' :: cs => some (['\''], cs)
  | '\'' :: '\'' :: '\'' :: cs => some ([], cs)
  | '\n' :: cs => (literalBlock cs).cons '\n'
  | '\r' :: '\n' :: cs => (literalBlock cs).cons '\n'
  | c :: cs => if isPlain c then (literalBlock cs).cons c else none

/-- The text without a line break at its start. -/
def skipBreak : List Char → List Char
  | '\n' :: cs => cs
  | '\r' :: '\n' :: cs => cs
  | cs => cs

/-- A string in any of the four forms. -/
def string? (cs : List Char) : Reading String :=
  let text? : Reading (List Char) :=
    match cs with
    | '"' :: '"' :: '"' :: rest => basicBlock .text (skipBreak rest)
    | '"' :: rest => basicLine rest
    | '\'' :: '\'' :: '\'' :: rest => literalBlock (skipBreak rest)
    | '\'' :: rest => literalLine rest
    | _ => none
  text?.map fun (text, rest) => (String.ofList text, rest)

/-- Further digits of a number whose value so far is `n`. An underscore may stand between
two digits. -/
def digits (base n : Nat) : List Char → Reading Nat
  | [] => some (n, [])
  | ['_'] => none
  | '_' :: c :: cs =>
      match digit? base c with
      | some d => digits base (base * n + d) cs
      | none => none
  | c :: cs =>
      match digit? base c with
      | some d => digits base (base * n + d) cs
      | none => some (n, c :: cs)

/-- A number whose first character has to be a digit. -/
def startDigits (base : Nat) : List Char → Reading Nat
  | c :: cs => (digit? base c).bind fun d => digits base d cs
  | [] => none

/-- A decimal number. One that begins with a zero has no further digits. -/
def decimal? : List Char → Reading Nat
  | '0' :: cs => some (0, cs)
  | cs => startDigits 10 cs

/-- An integer that is not negative. A sign is for decimal numbers alone. -/
def natural? : List Char → Reading Nat
  | '0' :: 'x' :: cs => startDigits 16 cs
  | '0' :: 'o' :: cs => startDigits 8 cs
  | '0' :: 'b' :: cs => startDigits 2 cs
  | '+' :: cs => decimal? cs
  | '-' :: cs => (decimal? cs).filter fun (n, _) => n = 0
  | cs => decimal? cs

end TodoLint.Config.Literal
