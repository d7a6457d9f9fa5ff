import TodoLint.FileFault

/-!
What a name in a file system stands for. In an ordered node (`FileNode.isOrdered`) the entries of
every directory are in the order of their names, so a walk visits them as they stand.
-/

namespace TodoLint

/-- The kinds of entries of a directory. -/
inductive FileKind where
  | file
  | link
  | directory
deriving DecidableEq, Repr

/-- A file, a symbolic link, or a directory with its entries. -/
inductive FileNode where
  | file (bytes : ByteArray)
  | link (target : String)
  | directory (entries : List (String × FileNode))
  /-- An entry that is there, but that cannot be opened or followed. -/
  | closed (kind : FileKind) (fault : FileFault)

/-- One step of a directory walk. -/
inductive WalkStep where
  /-- A path was reached. It is regular if it is a file and no symbolic link. -/
  | visit (path : String) (regular : Bool)
  /-- The walk could not go on at a path. -/
  | stopped (path : String) (fault : FileFault)
deriving DecidableEq, Repr

def maxPath : Nat := 4096

/-- The path of an entry of a directory. -/
def joinPath (directory name : String) : String :=
  if directory.isEmpty ∨ directory.toList.getLast? = some '/' then directory ++ name
  else directory ++ "/" ++ name

namespace FileNode

def empty : FileNode :=
  directory []

instance : Inhabited FileNode :=
  ⟨empty⟩

def kind : FileNode → FileKind
  | file _ => .file
  | link _ => .link
  | directory _ => .directory
  | closed kind _ => kind

/-- The node at a path of names that leads through directories alone. -/
def at? : List String → FileNode → Option FileNode
  | [], node => some node
  | name :: names, directory entries =>
      match entries.lookup name with
      | some node => node.at? names
      | none => none
  | _ :: _, _ => none

/-- Names lead to a directory, through directories alone. -/
def hasDirectory (names : List String) (node : FileNode) : Bool :=
  (node.at? names).any (·.kind = .directory)

/-- The entries with a name set to a node, or without it. -/
def setEntry (name : String) (node? : Option FileNode) :
    List (String × FileNode) → List (String × FileNode)
  | [] => (node?.map (name, ·)).toList
  | (other, node) :: rest =>
      if name = other then (node?.map (name, ·)).toList ++ rest
      else if name < other then (node?.map (name, ·)).toList ++ (other, node) :: rest
      else (other, node) :: setEntry name node? rest

/-- The node with the one at a path set or taken out. Nothing changes if the path does not
lead through directories alone. -/
def set (node? : Option FileNode) : List String → FileNode → FileNode
  | [], node => node?.getD node
  | [name], directory entries => directory (setEntry name node? entries)
  | name :: names, directory entries =>
      match entries.lookup name with
      | some child => directory (setEntry name (some (child.set node? names)) entries)
      | none => directory entries
  | _ :: _, node => node

mutual

/-- The entries of the node are ordered, if it is a directory. -/
def isOrdered : FileNode → Bool
  | directory entries => areOrdered entries
  | _ => true

/-- The names of the entries are strictly increasing, and so are those below each of them. -/
def areOrdered : List (String × FileNode) → Bool
  | [] => true
  | (name, node) :: rest =>
      rest.all (fun entry => name < entry.1) && isOrdered node && areOrdered rest

end

mutual

/-- The steps of a walk below a node that was reached by a path. A directory whose path is
too long cannot be opened. -/
def walkBelow (path : String) : FileNode → List WalkStep
  | directory entries =>
      if path.utf8ByteSize < maxPath then walkEntries path entries
      else [.stopped path .nameTooLong]
  | closed .directory fault =>
      [.stopped path (if path.utf8ByteSize < maxPath then fault else .nameTooLong)]
  | _ => []

/-- The steps of a walk through entries of the directory at a path. -/
def walkEntries (path : String) : List (String × FileNode) → List WalkStep
  | [] => []
  | (name, node) :: rest =>
      .visit (joinPath path name) (node.kind = .file) ::
        walkBelow (joinPath path name) node ++ walkEntries path rest

end

end FileNode

end TodoLint
