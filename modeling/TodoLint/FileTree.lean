import TodoLint.FileNode.Order
import TodoLint.Text.Substring

/-!
File trees: one state of the file system, and the working directory from which relative
paths start. `FileTree.resolve` says what a path leads to; reading a file, asking for its
kind and walking below it rest on that.
-/

namespace TodoLint

open Text

/-- The directory at the root, and the names that lead from it to the working directory. -/
structure FileTree where
  root : FileNode := .empty
  cwd : List String := []
  /-- The working directory was taken out. It has no entries then, and no path leads to it. -/
  gone : Bool := false
  ordered : root.isOrdered = true := by decide
  standing : (gone || root.hasDirectory cwd) = true := by decide

namespace FileTree

/-- A path divided at its slashes. -/
def components (path : String) : List String :=
  (splitAll '/' path.toList).map String.ofList

/-- The path from the root through names. -/
def absolutePath (names : List String) : String :=
  "/" ++ "/".intercalate names

/-- The names of the directory at which a path begins. -/
def origin (cwd : List String) (path : String) : List String :=
  if path.startsWith "/" then [] else cwd

/-- The greatest number of symbolic links that a path may lead through. -/
def maxLinks : Nat := 40

/-- The greatest size of a name in bytes. -/
def maxName : Nat := 255

/-- Follows the components of a path from the directory at the names `here`, with `links`
more symbolic links allowed. The result is the names that lead to the end of the path and
what is there. A link in the last place is followed if `follow` is set. -/
def resolve (root : FileNode) (follow : Bool) (links : Nat) (here : List String) :
    List String → Except FileFault (List String × FileNode)
  | [] =>
      match root.at? here with
      | some node => .ok (here, node)
      | none => .error .notFound
  | part :: parts =>
      match root.at? here with
      | some (.directory entries) =>
          if part = "" ∨ part = "." then resolve root follow links here parts
          else if part = ".." then resolve root follow links here.dropLast parts
          else if part.utf8ByteSize > maxName then .error .nameTooLong
          else
            match entries.lookup part with
            | none => .error .notFound
            | some node =>
                if node.kind = .link ∧ parts = [] ∧ !follow then .ok (here ++ [part], node)
                else
                  match node with
                  | .link target =>
                      match links with
                      | 0 => .error .linkLoop
                      | links + 1 =>
                          resolve root follow links (origin here target)
                            (components target ++ parts)
                  | .closed .link fault => .error fault
                  | _ => resolve root follow links (here ++ [part]) parts
      | some (.closed .directory fault) => .error fault
      | _ => .error .notDirectory
termination_by parts => (links, parts.length)

/-- Follows the components of a path from a directory that was taken out at the names `here`. It
still leads upwards, to the directory that it stood in. -/
def resolveGone (root : FileNode) (follow : Bool) (here : List String) :
    List String → Except FileFault (List String × FileNode)
  | [] => .ok (here, .empty)
  | part :: parts =>
      if part = "" ∨ part = "." then resolveGone root follow here parts
      else if part = ".." then
        if root.hasDirectory here.dropLast then resolve root follow maxLinks here.dropLast parts
        else resolveGone root follow here.dropLast parts
      else .error .notFound

/-- What a path leads to. -/
def find (tree : FileTree) (follow : Bool) (path : String) :
    Except FileFault (List String × FileNode) :=
  if path.contains '\x00' then .error .nulInPath
  else if path = "" then .error .notFound
  else if path.utf8ByteSize ≥ maxPath then .error .nameTooLong
  else if tree.gone ∧ !path.startsWith "/" then
    resolveGone tree.root follow tree.cwd (components path)
  else resolve tree.root follow maxLinks (origin tree.cwd path) (components path)

/-- The path of the working directory. -/
def workingDirectory (tree : FileTree) : Except FileFault String :=
  if tree.gone then .error .notFound else .ok (absolutePath tree.cwd)

/-- The tree with another root. The working directory is gone if it is not there. -/
def withRoot (tree : FileTree) (root : FileNode) (h : root.isOrdered = true) : FileTree where
  root := root
  cwd := tree.cwd
  gone := tree.gone || !root.hasDirectory tree.cwd
  ordered := h
  standing := by
    rw [Bool.or_assoc, Bool.not_or_self, Bool.or_true]

/-- The node that a path leads to through all links. -/
def node (tree : FileTree) (path : String) : Except FileFault FileNode :=
  (tree.find true path).map (·.2)

/-- The path leads to an entry of a kind, perhaps through symbolic links. -/
def leadsTo (tree : FileTree) (kind : FileKind) (path : String) : Bool :=
  match tree.node path with
  | .ok node => node.kind = kind
  | .error _ => false

def read (tree : FileTree) (path : String) : Except FileFault ByteArray :=
  match tree.node path with
  | .ok (.file bytes) => .ok bytes
  | .ok (.closed .file fault) => .error fault
  | .ok _ => .error .isDirectory
  | .error fault => .error fault

def readText (tree : FileTree) (path : String) : Except FileFault String :=
  (tree.read path).bind decodeText

/-- The steps of a walk from a path. A link at the start is followed, links below it are
not. -/
def walk (tree : FileTree) (path : String) : List WalkStep :=
  match tree.find false path, tree.node path with
  | .ok (_, start), .ok node => .visit path (start.kind = .file) :: node.walkBelow path
  | .error fault, _ => [.stopped path fault]
  | _, .error fault => [.stopped path fault]

end FileTree

end TodoLint
