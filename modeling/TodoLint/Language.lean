import TodoLint.Text.Substring

/-!
The language of a source file, recognised by the extension of its name.
-/

namespace TodoLint

open Text

/-- The languages whose strings and comments the tokens follow. -/
inductive Language where
  | python
deriving DecidableEq, Repr

namespace Language

def all : List Language :=
  [python]

def name : Language → String
  | python => "python"

def extensions : Language → List String
  | python => ["py", "pyi"]

end Language

/-- The components of a path, without those that stay where they are. -/
def pathComponents (path : String) : List (List Char) :=
  (splitAll '/' path.toList).filter fun part => part ≠ [] ∧ part ≠ ['.']

/-- The last component of a path, unless it leads to the parent directory. -/
def fileName? (path : String) : Option (List Char) :=
  (pathComponents path).getLast?.filter (· ≠ ['.', '.'])

/-- The extension of a path: what follows the last dot of its file name. A dot at the
start of the name begins no extension. -/
def extension? (path : String) : Option String :=
  match fileName? path with
  | none => none
  | some name =>
      let ending := (name.reverse.takeWhile (· ≠ '.')).reverse
      if ending.length + 1 < name.length then some (String.ofList ending) else none

/-- The language of a file. -/
def Language.ofPath? (path : String) : Option Language :=
  match extension? path with
  | none => none
  | some ext => Language.all.find? (·.extensions.contains ext)

end TodoLint
