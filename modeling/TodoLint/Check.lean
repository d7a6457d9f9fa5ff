import TodoLint.Input
import TodoLint.Language
import TodoLint.Program
import TodoLint.Report

/-!
Checks of sources, files, directories and standard input. What cannot be checked becomes a
failure in the report, and the check goes on.
-/

namespace TodoLint

def Registry.checkSource (r : Registry) (source : String) : Except Failure (List Finding) :=
  ((tokenize source).map r.check).mapError .unclosedString

namespace Report

/-- The target of the records of this module. -/
def logTarget : String := Program.name ++ "::linter"

/-- The report on a source under a name. -/
def ofSource (registry : Registry) (name source : String) : Except Failure Report :=
  (registry.checkSource source).map fun findings =>
    { filesChecked := 1, findings := findings.map (FileFinding.ofFinding name) }

/-- The report on an input, if it can be checked. -/
def ofInput? (tree : FileTree) (registry : Registry) (input : Input) :
    SessionM (Except Failure Report) := do
  record .debug logTarget ("Checking " ++ input.displayName)
  return (← input.read tree).bind (ofSource registry input.displayName)

/-- The report on an input that cannot be checked, and the reason that the log gives. -/
def skipped (name reason : String) (failure : Failure) : SessionM Report := do
  record .warn logTarget ("Skipping " ++ name ++ ": " ++ reason)
  return .ofFailure name failure

/-- The report on an input, whether it can be checked or not. -/
def ofInput (tree : FileTree) (registry : Registry) (input : Input) : SessionM Report := do
  match ← ofInput? tree registry input with
  | .ok report => return report
  | .error failure => skipped input.displayName failure.message failure

/-- The report on one step of a walk. Only regular files of a known language are checked. -/
def ofStep (tree : FileTree) (registry : Registry) : WalkStep → SessionM Report
  | .stopped path fault => skipped path (fault.walkMessage path) (.walkStopped path fault)
  | .visit _ false => return {}
  | .visit path true => do
      match Language.ofPath? path with
      | none => return {}
      | some language =>
          record .debug logTarget ("Found " ++ language.name ++ " file " ++ path)
          ofInput tree registry (.file path)

/-- The reports of several computations as one, in their order. -/
def inTurn : List (SessionM Report) → SessionM Report
  | [] => return {}
  | first :: others => return (← first).merge (← inTurn others)

/-- The report on a directory and all below it. -/
def ofDirectory (tree : FileTree) (registry : Registry) (path : String) : SessionM Report :=
  inTurn ((tree.walk path).map (ofStep tree registry))

/-- The report on what a name on the command line means: standard input, a directory, or a
file of any language. -/
def ofName (tree : FileTree) (registry : Registry) (name : String) : SessionM Report :=
  match Input.ofName (some name) with
  | .file path =>
      if tree.leadsTo .directory path then ofDirectory tree registry path
      else ofInput tree registry (.file path)
  | .stdin => ofInput tree registry .stdin

def ofNames (tree : FileTree) (registry : Registry) (names : List String) : SessionM Report :=
  inTurn (names.map (ofName tree registry))

end Report

end TodoLint
