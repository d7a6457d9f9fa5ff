import TodoLint.FileTree
import TodoLint.Session

/-!
Inputs: where a source comes from.
-/

namespace TodoLint

/-- Standard input or a file. -/
inductive Input where
  | stdin
  | file (path : String)
deriving DecidableEq, Repr

namespace Input

/-- The input of a name. Standard input is meant by `-`, by `stdin`, and if no name is
given. -/
def ofName : Option String → Input
  | none | some "-" | some "stdin" => stdin
  | some path => file path

def displayName : Input → String
  | stdin => "stdin"
  | file path => path

def read (tree : FileTree) : Input → SessionM (Except Failure String)
  | stdin => readStdin
  | file path => return (tree.readText path).mapError (.fileUnreadable path)

end Input

end TodoLint
