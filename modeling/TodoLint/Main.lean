import TodoLint.CommandLine.Run
import TodoLint.FileTree.Edit

/-!
The program. It copies what a command may look at from the disk into a file tree, runs the
command on that, and prints the outcome.
-/

namespace TodoLint.Main

/-- The fault that a number of the system means. Some parts of the system report the number
with a minus sign. -/
def faultOfCode (code : UInt32) (details : String) : FileFault :=
  match code.toInt32.toInt.natAbs with
  | 2 => .notFound
  | 20 => .notDirectory
  | 21 => .isDirectory
  | 36 => .nameTooLong
  | 40 => .linkLoop
  | n => .other (details.capitalize ++ " (os error " ++ toString n ++ ")")

/-- The fault that an error of the system means. -/
def faultOfError : IO.Error → FileFault
  | .alreadyExists _ code details | .invalidArgument _ code details
  | .permissionDenied _ code details | .resourceExhausted _ code details
  | .inappropriateType _ code details | .noSuchThing _ code details
  | .interrupted _ code details | .noFileOrDirectory _ code details
  | .otherError code details | .resourceBusy code details | .resourceVanished code details
  | .unsupportedOperation code details | .hardwareFault code details
  | .unsatisfiedConstraints code details | .illegalOperation code details
  | .protocolError code details | .timeExpired code details => faultOfCode code details
  | .unexpectedEof => .other "unexpected end of file"
  | .userError message => .other message

/-- What is copied in one piece, a directory without its entries. -/
abbrev Piece :=
  { node : FileNode // node.isOrdered = true }

/-- The piece that an action finds, or one that is closed for the reason of its failure. -/
def pieceOr (kind : FileKind) (action : IO Piece) : IO Piece :=
  try action catch e => return ⟨.closed kind (faultOfError e), rfl⟩

def entryOf (directory : List String) (name : String) : IO.FS.DirEntry :=
  { root := FileTree.absolutePath directory, fileName := name }

/-- What stands under a name in a directory of the disk. A link leads to the end of the links that
it begins. -/
def look (directory : List String) (name : String) : IO Piece :=
  pieceOr .file do
    let path := (entryOf directory name).path
    match (← path.symlinkMetadata).type with
    | .dir => return ⟨.empty, FileNode.isOrdered_empty⟩
    | .symlink => pieceOr .link do
        -- only this tells what is wrong with a link that leads nowhere
        let _ ← path.metadata
        let target := (← IO.FS.realPath path).toString
        return ⟨.link target, FileNode.isOrdered_link target⟩
    | .file | .other =>
        let bytes ← IO.FS.readBinFile path
        return ⟨.file bytes, FileNode.isOrdered_file bytes⟩

/-- Copies the entries that the components of a path lead through, from a directory that is
in the tree. -/
partial def copyPath (tree : FileTree) (here : List String) : List String → IO FileTree
  | [] => return tree
  | part :: parts => do
      if part = "" ∨ part = "." then copyPath tree here parts
      else if part = ".." then copyPath tree here.dropLast parts
      else
        let names := here ++ [part]
        match ← look here part with
        | ⟨.directory _, _⟩ =>
            let known := tree.root.hasDirectory names
            copyPath (if known then tree else tree.put names .empty) names parts
        | ⟨.link target, _⟩ =>
            copyPath (tree.put names (.link target)) [] (FileTree.components target ++ parts)
        | ⟨.closed _ .notFound, _⟩ => return tree
        | ⟨node, hnode⟩ => return tree.put names node hnode

/-- Copies the directories below a directory that is in the tree, and their files of a known
language. No other entry plays a part in a walk. -/
partial def copyBelow (tree : FileTree) (names : List String) : IO FileTree := do
  try
    let mut tree := tree
    for entry in ← (entryOf names "").path.readDir do
      let below := names ++ [entry.fileName]
      let type ← try pure (← entry.path.symlinkMetadata).type catch _ => pure .file
      match type with
      | .dir =>
          if (tree.root.at? below).isNone then tree := tree.put below .empty
          tree ← copyBelow tree below
      | .file =>
          if (Language.ofPath? entry.fileName).isSome ∧ (tree.root.at? below).isNone then
            let ⟨node, hnode⟩ ← look names entry.fileName
            tree := tree.put below node hnode
      | .symlink | .other => pure ()
    return tree
  catch e => return tree.put names (.closed .directory (faultOfError e))

/-- Copies what a path leads to, a directory with all that a walk may visit. -/
def copy (tree : FileTree) (path : String) : IO FileTree := do
  if path.contains '\x00' then return tree
  let tree ← copyPath tree (FileTree.origin tree.cwd path) (FileTree.components path)
  match tree.find true path with
  | .ok (names, .directory _) => copyBelow tree names
  | _ => return tree

/-- All bytes of a stream that are still to come. -/
partial def readAll (stream : IO.FS.Stream) (bytes : ByteArray) : IO ByteArray := do
  let more ← stream.read 65536
  if more.isEmpty then return bytes else readAll stream (bytes ++ more)

/-- The tree with nothing but the working directory, if that is not gone. -/
def emptyTree : IO FileTree :=
  try
    let path ← IO.currentDir
    return .ofWorkingDirectory ((FileTree.components path.toString).filter (· ≠ ""))
  catch _ => return { gone := true }

/-- What a command runs on. Standard input is left alone by a command that does not read
it. -/
def surroundings (arguments : List String) : IO Surroundings := do
  let stdout ← IO.getStdout
  let mut tree ← emptyTree
  let mut stdin := ByteArray.empty
  if let .ok (.run command) := CommandLine.parse arguments then
    -- a command is given up at once if there is no working directory
    unless tree.gone do
      tree ← copy tree (command.configPath tree.cwd)
      for input in command.inputs do
        match input with
        | .file path => tree ← copy tree path
        | .stdin => stdin ← readAll (← IO.getStdin) stdin
  return {
    arguments := arguments
    tree := tree
    stdin := stdin
    color := Report.Style.wanted (← IO.getEnv "CLICOLOR_FORCE") (← IO.getEnv "NO_COLOR")
      (← IO.getEnv "CLICOLOR") (← stdout.isTty)
    logSpec := ← IO.getEnv Program.logVariable }

end TodoLint.Main

def main (arguments : List String) : IO UInt32 := do
  let outcome := TodoLint.CommandLine.run (← TodoLint.Main.surroundings arguments)
  let stderr ← IO.getStderr
  for r in outcome.log do
    stderr.putStrLn r.line
  if let some complaint := outcome.complaint then
    stderr.putStrLn complaint
  (← IO.getStdout).putStr outcome.stdout
  return UInt32.ofNat outcome.status
