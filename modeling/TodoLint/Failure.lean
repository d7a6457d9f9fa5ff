import TodoLint.FileFault
import TodoLint.Registry
import TodoLint.Token.Stream

/-!
Everything that can go wrong in a check.
-/

namespace TodoLint

/-- What is wrong with a configuration that could be read. -/
inductive ConfigFault where
  | vocabulary (fault : VocabularyFault)
  /-- A code to be ignored belongs to no built-in rule. -/
  | unknownCode (code : Nat)
deriving DecidableEq, Repr

def ConfigFault.message : ConfigFault → String
  | vocabulary fault => fault.message
  | unknownCode code => "unknown rule code " ++ toString code ++ " in ignore"

/-- Why a check, or a part of it, cannot be done. -/
inductive Failure where
  /-- The path of the working directory cannot be had. -/
  | noWorkingDirectory (fault : FileFault)
  | fileUnreadable (path : String) (fault : FileFault)
  | stdinUnreadable (fault : FileFault)
  /-- A directory walk could not go on at a path. -/
  | walkStopped (path : String) (fault : FileFault)
  | unclosedString (fault : UnclosedString)
  | duplicateCode (fault : DuplicateCode)
  | badConfig (fault : ConfigFault)
  /-- A configuration file is no valid configuration document. -/
  | badConfigDocument (path : String)
  /-- The tags of a configuration make no pattern to search for. -/
  | badPattern (reason : String)
deriving DecidableEq, Repr

namespace Failure

def message : Failure → String
  | noWorkingDirectory fault => "IO error: " ++ fault.message
  | fileUnreadable path fault => "Failed to read file " ++ path ++ ": " ++ fault.message
  | stdinUnreadable fault => "Failed to read standard input: " ++ fault.message
  | walkStopped path fault => "Failed to walk directory: " ++ fault.walkMessage path
  | unclosedString fault =>
      "Tokenize error at line " ++ toString fault.row ++ ": unterminated triple-quoted string"
  | duplicateCode fault =>
      "Duplicate codes for rules: " ++ codeName fault.code ++ " registered twice"
  | badConfig fault => "Invalid configuration: " ++ fault.message
  | badConfigDocument path => "Failed to parse config " ++ path
  | badPattern reason => "Invalid tag pattern: " ++ reason

/-- The input itself could not be read. -/
def isUnreadable : Failure → Bool
  | noWorkingDirectory .. | fileUnreadable .. | stdinUnreadable .. | walkStopped .. => true
  | unclosedString .. | duplicateCode .. | badConfig .. | badConfigDocument ..
  | badPattern .. => false

end Failure

end TodoLint
