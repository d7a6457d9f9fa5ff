import TodoLint.Text.Blank

/-!
The options in force at a place of a pattern, and the white space that one of them allows.
-/

namespace TodoLint.ValuePattern

open Text

/-- The options that matter for the form of a pattern. -/
structure Options where
  /-- White space and comments in the pattern mean nothing. -/
  spaced : Bool := false
  /-- The pattern is about characters. Otherwise it is about bytes, and may still not match
  what is no text. -/
  unicode : Bool := true
deriving DecidableEq, Repr

/-- The text after white space and comments, which go from a `#` to the end of the line. -/
def skipComments (inComment : Bool) : List Char → List Char
  | [] => []
  | c :: cs =>
      if inComment then skipComments (c ≠ '\n') cs
      else if isBlank c then skipComments false cs
      else if c = '#' then skipComments true cs
      else c :: cs

/-- The first character after white space and at most one `#`. -/
def afterMark? (marked : Bool) : List Char → Option Char
  | [] => none
  | c :: cs =>
      if isBlank c then afterMark? marked cs
      else if c = '#' ∧ !marked then afterMark? true cs
      else some c

namespace Options

/-- The text without what means nothing at its start. -/
def skip (o : Options) (cs : List Char) : List Char :=
  if o.spaced then skipComments false cs else cs

/-- The character that decides whether a hyphen before the text makes a range. A comment is
not passed over as a whole. -/
def peek? (o : Options) (cs : List Char) : Option Char :=
  if o.spaced then (afterMark? false cs).or cs.head? else cs.head?

/-- The options after a word that turns some on and, after a hyphen, some off. -/
def set (o : Options) (word : List Char) : Options :=
  let state := fun (letter : Char) (before : Bool) =>
    if letter ∈ word.takeWhile (· ≠ '-') then true
    else if letter ∈ word then false
    else before
  ⟨state 'x' o.spaced, state 'u' o.unicode⟩

end Options

/-- A word of options is well-formed: it names each at most once, and has at most one
hyphen, which is not its end. -/
def isOptionWord (word : List Char) : Bool :=
  word.all (· ∈ "imsUuRx-".toList) && decide word.Nodup && word.getLast? != some '-'

/-- The height of some things together, of their heights. One thing alone is no higher. -/
def jointHeight : List Nat → Nat
  | [] => 0
  | [height] => height
  | heights => 1 + heights.foldl max 0

end TodoLint.ValuePattern
