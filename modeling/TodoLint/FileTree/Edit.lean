import TodoLint.FileTree

/-!
Changes to a file tree: new directories, files and links, each with the directories above
it, and removals.
-/

namespace TodoLint.FileTree

/-- A change to a file tree. What was changed before a fault stays changed. -/
abbrev Edit := ExceptT FileFault (StateM FileTree)

/-- Directories that hold each the next of some names and nothing else. -/
def nested (names : List String) : FileNode :=
  names.foldr (fun name node => .directory [(name, node)]) .empty

theorem isOrdered_nested (names : List String) : (nested names).isOrdered = true := by
  induction names with
  | nil => rfl
  | cons name names ih => exact FileNode.areOrdered_iff.mpr (by simpa [nested] using ih)

theorem hasDirectory_nested (names : List String) : (nested names).hasDirectory names = true := by
  induction names with
  | nil => rfl
  | cons name names ih => simpa [FileNode.hasDirectory, nested, FileNode.at?] using ih

/-- The tree that holds a working directory without entries. -/
def ofWorkingDirectory (cwd : List String) : FileTree where
  root := nested cwd
  cwd := cwd
  gone := false
  ordered := isOrdered_nested cwd
  standing := hasDirectory_nested cwd

/-- The tree with another node at the names that lead to it. -/
def put (tree : FileTree) (names : List String) (node : FileNode)
    (h : node.isOrdered = true := by rfl) : FileTree :=
  tree.withRoot (tree.root.set (some node) names)
    (FileNode.isOrdered_set names tree.ordered (by rintro _ ⟨⟩; exact h))

/-- The tree without the node at the names that lead to it. -/
def takeOut (tree : FileTree) (names : List String) : FileTree :=
  tree.withRoot (tree.root.set none names) (FileNode.isOrdered_set names tree.ordered nofun)

/-- The component names no entry but the directory that the path before it leads to. -/
def isHere (part : String) : Bool :=
  part = "" || part = "."

/-- The components of the path above the last entry that components name. -/
def above (parts : List String) : List String :=
  (((parts.reverse.dropWhile isHere).drop 1).dropWhile isHere).reverse

/-- Refuses what cannot be a path. -/
def checkPath (path : String) : Except FileFault Unit :=
  if path.contains '\x00' then .error .nulInPath
  else if path.utf8ByteSize ≥ maxPath then .error .nameTooLong
  else .ok ()

/-- The names of the directory at which the path of a change begins. Nothing is made or taken out
from a working directory that is gone. -/
def start (path : String) : Edit (List String) := do
  let tree ← get
  if tree.gone ∧ !path.startsWith "/" then throw .notFound
  return origin tree.cwd path

/-- Makes each directory of a path that is not there yet, from the one at the names `here`
on, and gives the names of the last. -/
def makeEach (here : List String) : List String → Edit (List String)
  | [] => return here
  | part :: parts => do
      let root := (← get).root
      match resolve root true maxLinks here [part] with
      | .ok (there, .directory _) => makeEach there parts
      | .ok _ => throw .notDirectory
      | .error .notFound =>
          match resolve root false maxLinks here [part] with
          | .error .notFound =>
              modify (·.put (here ++ [part]) .empty)
              makeEach (here ++ [part]) parts
          | _ => throw .notDirectory
      | .error fault => throw fault

/-- Makes the directory at a path from the one at the names `here` and those above it, as
far as they are not there yet, and gives its names. -/
def makeDirectory (here parts : List String) : Edit (List String) := do
  match resolve (← get).root true maxLinks here parts with
  | .ok (there, .directory _) => return there
  | .ok _ => throw .notDirectory
  | .error .notFound => makeEach here parts
  | .error fault => throw fault

/-- Makes a directory and those above it. Nothing has to be made for an empty path. A
directory cannot be made under the name of a dot, it has to be there. -/
def addDirectory (path : String) : Edit Unit := do
  checkPath path
  let parts := components path
  let here ← start path
  if (parts.reverse.dropWhile (· = "")).head? = some "." then
    discard <| makeDirectory here (above parts)
    match resolve (← get).root true maxLinks here parts with
    | .ok (_, .directory _) => return
    | .ok _ => throw .notDirectory
    | .error fault => throw fault
  else discard <| makeDirectory here parts

/-- The names of an entry to be made, after the directories above it were made. -/
def prepareEntry (path : String) : Edit (List String) := do
  let parts := components path
  checkPath ("/".intercalate (above parts))
  let parent ← makeDirectory (← start path) (above parts)
  checkPath path
  let name := parts.getLast?.getD ""
  if isHere name ∨ name = ".." then throw .isDirectory
  if name.utf8ByteSize > maxName then throw .nameTooLong
  return parent ++ [name]

/-- The names under which a file comes to stand that is written to a path, after at most
`links` links in the last place. -/
def destination (root : FileNode) (links : Nat) (here parts : List String) :
    Except FileFault (List String) := do
  let name := parts.getLast?.getD ""
  let (parent, _) ← resolve root true maxLinks here parts.dropLast
  if isHere name ∨ name = ".." then throw .isDirectory
  if name.utf8ByteSize > maxName then throw .nameTooLong
  match root.at? (parent ++ [name]), links with
  | some (.link _), 0 => throw .linkLoop
  | some (.link target), links + 1 =>
      destination root links (origin parent target) (components target)
  | some (.directory _), _ => throw .isDirectory
  | some (.closed _ fault), _ => throw fault
  | _, _ => return parent ++ [name]

/-- Writes a file. One that is there is replaced, also where a link leads to it. -/
def addFile (path : String) (bytes : ByteArray) : Edit Unit := do
  let names ← prepareEntry path
  let names ← destination (← get).root maxLinks [] names
  modify (·.put names (.file bytes))

/-- Makes a symbolic link under a name that is not taken. -/
def addLink (path target : String) : Edit Unit := do
  let names ← prepareEntry path
  if target = "" then throw .notFound
  checkPath target
  if ((← get).root.at? names).isSome then throw (.other "File exists (os error 17)")
  modify (·.put names (.link target))

/-- Takes out a file, a link, or a directory with all below it. A directory that has a dot
for a name, or a link with a slash after it, cannot be taken out, but loses its entries. -/
def remove (path : String) : Edit Unit := do
  let here ← start path
  let tree ← get
  let named := (components path).reverse.dropWhile (· = "")
  match ← tree.find false path with
  | (names, .directory _) =>
      match named.head?, resolve tree.root false maxLinks here named.reverse with
      | some ".", _ | _, .ok (_, .link _) =>
          set (tree.put names .empty)
          throw (.other "Invalid argument (os error 22)")
      | _, _ => set (tree.takeOut names)
  | (names, _) => set (tree.takeOut names)

/-- The tree after a change, and the fault that ended it. -/
def edit (tree : FileTree) (change : Edit Unit) : Except FileFault Unit × FileTree :=
  (change.run.run tree).run

end TodoLint.FileTree
