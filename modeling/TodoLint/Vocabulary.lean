import TodoLint.Text.Blank
import TodoLint.Text.Quoted
import TodoLint.Text.Substring

/-!
The tags that mark a comment as a task, and those of them that are discouraged.
-/

namespace TodoLint

open Text

/-- The tag that is to be written in place of every discouraged one. -/
def canonicalTag : String := "TODO"

/-- The tags that are recognised, and the discouraged ones among them. -/
structure Vocabulary where
  tags : List String := ["TODO", "FIXME", "BUG", "XXX"]
  badTags : List String := ["FIXME", "BUG", "XXX"]
deriving DecidableEq, Repr, Inhabited

/-- What is wrong with two lists of tags. -/
inductive VocabularyFault where
  /-- No tag is given, or all are blank. -/
  | noTags
  | blankTag (tag : String)
  /-- The canonical tag is not recognised. -/
  | noCanonicalTag
  /-- The canonical tag is discouraged. -/
  | badCanonicalTag
  /-- A discouraged tag is not recognised. -/
  | unlistedTag (tag : String)
deriving DecidableEq, Repr

def VocabularyFault.message : VocabularyFault → String
  | noTags => "tag list must not be empty"
  | blankTag tag => "blank tag " ++ quoted tag
  | noCanonicalTag => "tag list must include " ++ canonicalTag
  | badCanonicalTag => canonicalTag ++ " cannot be a bad tag"
  | unlistedTag tag => "bad tag " ++ tag ++ " is not in the tag list"

/-- A tag of white space alone. -/
def isBlankTag (tag : String) : Bool :=
  allBlank tag.toList

/-- The tag is in the list up to the case of ASCII letters. -/
def listed (tags : List String) (tag : String) : Bool :=
  tags.any (sameAscii · tag)

/-- The vocabulary of two lists of tags. The first fault in the order of the tests is
reported. -/
def Vocabulary.ofTags (tags badTags : List String) : Except VocabularyFault Vocabulary :=
  if tags.all isBlankTag then .error .noTags
  else
    match (tags ++ badTags).find? isBlankTag with
    | some tag => .error (.blankTag tag)
    | none =>
        if !listed tags canonicalTag then .error .noCanonicalTag
        else if listed badTags canonicalTag then .error .badCanonicalTag
        else
          match badTags.find? (!listed tags ·) with
          | some tag => .error (.unlistedTag tag)
          | none => .ok ⟨tags, badTags⟩

end TodoLint
