import TodoLint.Text.Folding
import TodoLint.Text.Pattern
import TodoLint.Vocabulary

/-!
The search for a tag in a comment: a `#`, white space, and a tag in any case.
-/

namespace TodoLint

open Text

/-- A tag found in a text, which is `before ++ tag ++ after`. The tag is as written, and
the text before it ends with the `#` and the white space that mark it. -/
structure TagMatch where
  before : List Char
  tag : List Char
  after : List Char
deriving DecidableEq, Repr

namespace TagMatch

/-- The number of bytes of the text up to the end of the tag. -/
def endOffset (m : TagMatch) : Nat :=
  (String.ofList (m.before ++ m.tag)).utf8ByteSize

/-- The text after the tag without white space at its ends. -/
def head (m : TagMatch) : List Char :=
  trim m.after

end TagMatch

/-- What marks a tag: a `#` and any amount of white space. -/
def tagMark : Pattern :=
  .seq (.one (· == '#')) (.run isBlank 0 none)

/-- A tag in any case, without the white space around it in the list. -/
def tagPattern (tag : String) : Pattern :=
  .inOrder ((trim tag.toList).map fun c => .one (sameLetter c))

/-- The mark and one of the tags at the start of a text, as the text from the tag on and
the text after the tag. -/
def tagAtStart (tags : List String) (cs : List Char) : Option (List Char × List Char) :=
  (tagMark.rests cs).findSome? fun fromTag =>
    ((Pattern.anyOf (tags.map tagPattern)).rests fromTag).head?.map (fromTag, ·)

/-- The first marked tag of a text, `seen` being the text before it in reverse order. -/
def findTagFrom (tags : List String) (seen : List Char) : List Char → Option TagMatch
  | [] => none
  | c :: cs =>
      match tagAtStart tags (c :: cs) with
      | some (fromTag, after) =>
          let mark := (c :: cs).take ((c :: cs).length - fromTag.length)
          some ⟨seen.reverse ++ mark, fromTag.take (fromTag.length - after.length), after⟩
      | none => findTagFrom tags (c :: seen) cs

def findTag (tags : List String) (cs : List Char) : Option TagMatch :=
  findTagFrom tags [] cs

namespace Vocabulary

/-- The first recognised tag of a comment. -/
def find? (v : Vocabulary) (text : String) : Option TagMatch :=
  findTag v.tags text.toList

/-- The first discouraged tag of a comment. -/
def findBad? (v : Vocabulary) (text : String) : Option TagMatch :=
  findTag v.badTags text.toList

end Vocabulary

end TodoLint
