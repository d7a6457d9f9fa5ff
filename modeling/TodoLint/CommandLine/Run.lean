import TodoLint.Check
import TodoLint.CommandLine
import TodoLint.Config.Discovery
import TodoLint.Log.Filter

/-!
A run of the program: from its arguments and surroundings to what it prints and the status
with which it ends.
-/

namespace TodoLint

/-- What a run starts from. -/
structure Surroundings where
  arguments : List String
  tree : FileTree := {}
  stdin : ByteArray := .empty
  /-- Output may be coloured. -/
  color : Bool := false
  /-- The specification of the log filter, if there is one. -/
  logSpec : Option String := none
  /-- Why the tags of a vocabulary make no pattern, such as a limit on the size of patterns. -/
  refusal : Vocabulary → Option String := fun _ => none

/-- What a run comes to. -/
structure Outcome where
  status : Nat
  stdout : String := ""
  /-- The records that the log filter shows. -/
  log : List LogRecord := []
  /-- The message with which the run was given up, if it was. -/
  complaint : Option String := none

namespace Command

def inputs : Command → List Input
  | check paths _ _ _ => paths.map fun path => .ofName (some path)
  | rules _ _ => []

/-- The path of the configuration file that a command reads, in the working directory if
none is named. -/
def configPath (cwd : List String) : Command → String
  | check _ config _ _ | rules config _ =>
      config.getD (joinPath (FileTree.absolutePath cwd) Program.configFile)

end Command

namespace CommandLine

/-- The filter that is used if none is specified, or none that is well-formed. -/
def defaultFilter : LogFilter :=
  [{ target := Program.name.toList, rank := LogLevel.warn.rank }]

/-- The filter for a specification, if there is one. A run cannot begin with a specification
whose words split a character. -/
def filter? (spec : Option String) : Option LogFilter :=
  match spec.map LogFilter.ofSpec with
  | some (.ok filter) => some filter
  | none | some (.error .malformed) => some defaultFilter
  | some (.error .splitCharacter) => none

/-- The registry, if its tags make patterns. -/
def withPatterns (s : Surroundings) (r : Registry) : Except Failure Registry :=
  match s.refusal r.vocabulary with
  | some reason => .error (.badPattern reason)
  | none => .ok r

/-- The registry for a command: that of the configuration in force, with further codes to
ignore. There has to be a working directory, even if a configuration file is named. -/
def loadRegistry (s : Surroundings) (config : Option String)
    (ignore : List Nat) : SessionM (Except Failure Registry) := do
  match s.tree.workingDirectory with
  | .error fault => return .error (.noWorkingDirectory fault)
  | .ok directory =>
      match ← Config.discover s.tree config directory with
      | .error failure => return .error failure
      | .ok config =>
          return { config with ignore := config.ignore ++ ignore }.registry.bind (withPatterns s)

/-- The status of a check: 2 if an input could not be checked, 1 if something was found,
and 0 otherwise. -/
def checkStatus (report : Report) : Nat :=
  if !report.failures.isEmpty then 2 else if report.passed then 0 else 1

/-- The outcome of a command that was given up. -/
def givenUp (failure : Failure) : Outcome :=
  { status := 2, complaint := some ("Error: " ++ failure.message) }

def runCommand (s : Surroundings) : Command → SessionM Outcome
  | .check paths config ignore format => do
      match ← loadRegistry s config ignore with
      | .error failure => return givenUp failure
      | .ok registry =>
          let report ← Report.ofNames s.tree registry paths
          return { status := checkStatus report, stdout := report.render format s.color ++ "\n" }
  | .rules config format => do
      match ← loadRegistry s config [] with
      | .error failure => return givenUp failure
      | .ok registry => return { status := 0, stdout := registry.render format s.color ++ "\n" }

def runWith (filter : LogFilter) (s : Surroundings) : Outcome :=
  match parse s.arguments with
  | .error fault => { status := 2, complaint := some ("error: " ++ fault.message) }
  | .ok .help => { status := 0, stdout := helpText }
  | .ok .version => { status := 0, stdout := Program.name ++ " " ++ Program.version ++ "\n" }
  | .ok (.run command) =>
      let (outcome, session) := (runCommand s command).run { stdin := s.stdin }
      { outcome with log := session.log.toList.filter filter.shows }

def run (s : Surroundings) : Outcome :=
  match filter? s.logSpec with
  | some filter => runWith filter s
  | none =>
      { status := 101, complaint := some "error: a word of the log filter splits a character" }

end CommandLine

end TodoLint
