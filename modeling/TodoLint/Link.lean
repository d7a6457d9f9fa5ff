import TodoLint.Text.Blank
import TodoLint.Text.Digit
import TodoLint.Text.Pattern
import TodoLint.Text.Substring

/-!
References to an issue: a web address, an issue code such as `ABC-12`, or a ticket number
such as `#12` after white space.
-/

namespace TodoLint.Link

open Text

/-- One to six capital letters, perhaps a hyphen, and digits. -/
def issueCode : Pattern :=
  .inOrder [.run Char.isUpper 1 (some 6), .run (· == '-') 0 (some 1),
    .run isDecimalDigit 1 none]

/-- White space, a `#` and digits. -/
def ticketNumber : Pattern :=
  .inOrder [.one isBlank, .one (· == '#'), .run isDecimalDigit 1 none]

/-- The text refers to an issue. -/
def occursIn (text : String) : Bool :=
  let cs := text.toList
  occurs "http://".toList cs || occurs "https://".toList cs ||
    issueCode.occursIn cs || ticketNumber.occursIn cs

end TodoLint.Link
