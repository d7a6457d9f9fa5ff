import TodoLint.Text.Blank
import TodoLint.Text.Substring

/-!
The shape of what follows a tag: an author, a colon, a space and a text. A well-formed
comment reads `TODO(name): text`, `TODO @name: text` or `TODO: text`. The functions of
this module take the text after the tag without white space at its ends.
-/

namespace TodoLint.Shape

open Text

/-- An author is written `(name)` or `@name` before the first colon. A text with nothing
before the colon names none and is not blamed for it. -/
def hasAuthor (head : List Char) : Bool :=
  match head.takeWhile (· ≠ ':') with
  | [] => true
  | '(' :: rest =>
      if rest.getLast? = some ')' then !allBlank rest.dropLast else false
  | '@' :: name => !allBlank name
  | _ => false

/-- A colon comes right after the tag or after a closing parenthesis. -/
def hasColon (head : List Char) : Bool :=
  [':'].isPrefixOf head || occurs [')', ':'] head

/-- Text comes after the colon. A missing colon is not blamed, but the absence of any
text at all is. -/
def hasText (head : List Char) : Bool :=
  match head with
  | [] => false
  | ':' :: rest => !allBlank rest
  | _ =>
      match afterFirst? [')', ':'] head with
      | some rest => !allBlank rest
      | none => true

/-- A space comes right after the colon. -/
def hasSpace (head : List Char) : Bool :=
  [':', ' '].isPrefixOf head || occurs [')', ':', ' '] head

end TodoLint.Shape
