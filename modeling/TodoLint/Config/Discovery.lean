import TodoLint.Config.Document
import TodoLint.FileTree
import TodoLint.Program
import TodoLint.Session

/-!
Which configuration is in force.
-/

namespace TodoLint.Config

/-- The target of the records of this module. -/
def logTarget : String := Program.name ++ "::config"

def load (tree : FileTree) (path : String) : SessionM (Except Failure Config) := do
  match tree.readText path with
  | .error fault => return .error (.fileUnreadable path fault)
  | .ok document =>
      match ofDocument? document with
      | none => return .error (.badConfigDocument path)
      | some config =>
          record .debug logTarget ("Loaded config from " ++ path)
          return .ok config

/-- The configuration in force: that of the file named, else that of the configuration
file in a directory, else the default one. -/
def discover (tree : FileTree) (named : Option String) (directory : String) :
    SessionM (Except Failure Config) := do
  match named with
  | some path => load tree path
  | none =>
      let candidate := joinPath directory Program.configFile
      if tree.leadsTo .file candidate then load tree candidate
      else
        record .debug logTarget ("No " ++ Program.configFile ++ " found, using defaults")
        return .ok {}

end TodoLint.Config
