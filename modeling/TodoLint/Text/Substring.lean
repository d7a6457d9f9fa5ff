/-!
Occurrences of one text in another.
-/

namespace TodoLint.Text

/-- The text after the first occurrence of `needle`, if there is one. -/
def afterFirst? (needle : List Char) : List Char → Option (List Char)
  | [] => if needle.isEmpty then some [] else none
  | c :: cs =>
      if needle.isPrefixOf (c :: cs) then some ((c :: cs).drop needle.length)
      else afterFirst? needle cs

def occurs (needle cs : List Char) : Bool :=
  (afterFirst? needle cs).isSome

/-- The texts between the occurrences of a separator, of which there is at least one. -/
def splitAll (separator : Char) : List Char → List (List Char)
  | [] => [[]]
  | c :: cs =>
      if c = separator then [] :: splitAll separator cs
      else
        match splitAll separator cs with
        | [] => [[c]]
        | field :: fields => (c :: field) :: fields

/-- Equality up to the case of ASCII letters. -/
def sameAscii (a b : String) : Bool :=
  a.toList.map Char.toLower == b.toList.map Char.toLower

end TodoLint.Text
