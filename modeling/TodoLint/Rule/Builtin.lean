import TodoLint.Link
import TodoLint.Rule
import TodoLint.Shape
import TodoLint.Text.LetterCase

/-!
The seven built-in rules.
-/

namespace TodoLint.Rule

open Text

/-- A rule that complains in its own words about every tagged comment that fails a test.
The test gets the text of the comment and what follows its tag. -/
def demanding (code : Nat) (name text : String) (holds : String → List Char → Bool) : Rule where
  code := code
  name := name
  text := text
  inspection := .ofComment fun vocabulary comment =>
    match vocabulary.find? comment.text with
    | none => none
    | some found => if holds comment.text found.head then none else some text

/-- The tag is not a discouraged one. -/
def badTag : Rule where
  code := 1
  name := "bad-tag"
  text := "use TODO instead of \x7btag\x7d for consistency"
  inspection := .ofComment fun vocabulary comment =>
    (vocabulary.findBad? comment.text).map fun found =>
      "use " ++ canonicalTag ++ " instead of " ++ String.ofList found.tag ++ " for consistency"

/-- An author comes before the colon. -/
def missedAuthor : Rule :=
  demanding 2 "missed-author" "add author into TODO" fun _ head => Shape.hasAuthor head

/-- The comment or one that continues it refers to an issue. -/
def missedLink : Rule where
  code := 3
  name := "missed-link"
  text := "add link on issue into TODO"
  inspection := .ofGroup fun text =>
    if Link.occursIn text then none else some "add link on issue into TODO"

/-- A colon comes after the tag or the author. -/
def missedColon : Rule :=
  demanding 4 "missed-colon" "missed colon in TODO" fun comment head =>
    comment.toList.contains ':' && Shape.hasColon head

/-- Text comes after the colon. -/
def missedText : Rule :=
  demanding 5 "missed-text" "missed text in TODO" fun _ head => Shape.hasText head

/-- The tag is written in capitals. -/
def invalidCase : Rule where
  code := 6
  name := "invalid-case"
  text := "write \x7bgood\x7d instead of \x7bbad\x7d"
  inspection := .ofComment fun vocabulary comment =>
    match vocabulary.find? comment.text with
    | none => none
    | some found =>
        if isUpperText found.tag then none
        else
          some ("write " ++ String.ofList (upperText found.tag) ++ " instead of " ++
            String.ofList found.tag)

/-- A space comes after the colon. -/
def missedSpace : Rule :=
  demanding 7 "missed-space" "missed space after colon in TODO" fun comment head =>
    comment.toList.contains ' ' && Shape.hasSpace head

/-- The built-in rules by their codes. -/
def builtin : List Rule :=
  [badTag, missedAuthor, missedLink, missedColon, missedText, invalidCase, missedSpace]

end TodoLint.Rule
