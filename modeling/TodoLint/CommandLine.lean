import TodoLint.Program
import TodoLint.Report.Layout
import TodoLint.Text.Numeral

/-!
The command line. Arguments are read from left to right, and the first fault ends the
reading; a request for help is granted if no fault comes before it. Options may stand
before, between and after the paths, and after `--` every argument is a path.
-/

namespace TodoLint

open Text

/-- What the program is to do. -/
inductive Command where
  /-- Check inputs. -/
  | check (paths : List String) (config : Option String) (ignore : List Nat) (format : Format)
  /-- List the rules of a check. -/
  | rules (config : Option String) (format : Format)
deriving DecidableEq, Repr

/-- What the arguments ask for. -/
inductive Request where
  | run (command : Command)
  | help
  | version
deriving DecidableEq, Repr

/-- Why the arguments cannot be understood. -/
inductive UsageFault where
  | missingCommand
  | unknownCommand (name : String)
  | unexpectedArgument (argument : String)
  | missingValue (setting : String)
  | badValue (setting value : String)
  | repeatedSetting (setting : String)
deriving DecidableEq, Repr

def UsageFault.message : UsageFault → String
  | missingCommand => "a command is required"
  | unknownCommand name => "unrecognized command " ++ name
  | unexpectedArgument argument => "unexpected argument " ++ argument
  | missingValue setting => "a value is required for " ++ setting
  | badValue setting value => "invalid value " ++ value ++ " for " ++ setting
  | repeatedSetting setting => setting ++ " cannot be used more than once"

namespace CommandLine

/-- An option that takes a value. -/
inductive Setting where
  | config
  | ignore
  | format
deriving DecidableEq, Repr

namespace Setting

/-- The long name of an option. -/
def name : Setting → String
  | config => "config"
  | ignore => "ignore"
  | format => "format"

/-- The one-letter name of an option, if it has one. -/
def letter? : Setting → Option Char
  | config => some 'c'
  | ignore => none
  | format => some 'f'

def ofCheck : List Setting :=
  [config, ignore, format]

def ofRules : List Setting :=
  [config, format]

end Setting

/-- The arguments of a command as far as they were read. -/
structure Reading where
  paths : List String := []
  config : Option String := none
  ignore : List Nat := []
  format : Option Format := none

/-- A decimal number that is not negative, perhaps after a sign. -/
def natural? : List Char → Option Nat
  | '-' :: digits => (numeral? digits).filter (· = 0)
  | cs => plusNumeral? cs

/-- A rule code, which has at most 32 bits. -/
def code? (cs : List Char) : Option Nat :=
  (natural? cs).filter (· < UInt32.size)

def Reading.assign (r : Reading) (setting : Setting) (value : String) :
    Except UsageFault Reading :=
  match setting with
  | .config =>
      if r.config.isSome then .error (.repeatedSetting setting.name)
      else if value.isEmpty then .error (.badValue setting.name value)
      else .ok { r with config := some value }
  | .format =>
      if r.format.isSome then .error (.repeatedSetting setting.name)
      else
        match Format.ofName? value with
        | some format => .ok { r with format := some format }
        | none => .error (.badValue setting.name value)
  | .ignore =>
      match (splitAll ',' value.toList).mapM code? with
      | some codes => .ok { r with ignore := r.ignore ++ codes }
      | none => .error (.badValue setting.name value)

/-- What one argument is, `--` and a value of the option before it apart. -/
inductive Argument where
  | path
  | help
  /-- An option, and its value if the argument holds one. -/
  | setting (setting : Setting) (value : Option String)
  | unexpected
deriving DecidableEq, Repr

/-- The argument after two hyphens. -/
def longArgument (settings : List Setting) (cs : List Char) : Argument :=
  let name := String.ofList (cs.takeWhile (· ≠ '='))
  let value :=
    match cs.dropWhile (· ≠ '=') with
    | [] => none
    | _ :: value => some (String.ofList value)
  if name = "help" then if value.isNone then .help else .unexpected
  else
    match settings.find? (·.name == name) with
    | some setting => .setting setting value
    | none => .unexpected

/-- The argument after one hyphen. The value of a one-letter option may follow its letter
or an equals sign. -/
def shortArgument (settings : List Setting) (letter : Char) (cs : List Char) : Argument :=
  if letter = 'h' then .help
  else
    match settings.find? (·.letter? == some letter) with
    | none => .unexpected
    | some setting =>
        match cs with
        | [] => .setting setting none
        | '=' :: value => .setting setting (some (String.ofList value))
        | value => .setting setting (some (String.ofList value))

/-- What an argument is. A single hyphen is a path. -/
def classify (settings : List Setting) (argument : String) : Argument :=
  match argument.toList with
  | '-' :: '-' :: cs => longArgument settings cs
  | '-' :: letter :: cs => shortArgument settings letter cs
  | _ => .path

/-- Reads the arguments of a command, and tells whether help was asked for. -/
def readArguments (settings : List Setting) (takesPaths : Bool) (r : Reading) :
    List String → Except UsageFault (Option Reading)
  | [] => .ok (some r)
  | "--" :: paths =>
      match takesPaths, paths with
      | false, path :: _ => .error (.unexpectedArgument path)
      | _, _ => .ok (some { r with paths := r.paths ++ paths })
  | argument :: rest =>
      match classify settings argument with
      | .help => .ok none
      | .unexpected => .error (.unexpectedArgument argument)
      | .path =>
          if takesPaths then
            readArguments settings takesPaths { r with paths := r.paths ++ [argument] } rest
          else .error (.unexpectedArgument argument)
      | .setting setting (some value) => do
          readArguments settings takesPaths (← r.assign setting value) rest
      | .setting setting none =>
          match rest with
          | [] => .error (.missingValue setting.name)
          | value :: rest =>
              if value = "--" ∨ classify settings value ≠ .path then
                .error (.missingValue setting.name)
              else do
                readArguments settings takesPaths (← r.assign setting value) rest

/-- The commands for which help can be asked. -/
def helpTopics : List String :=
  ["check", "rules", "help"]

/-- What the arguments ask for. -/
def parse : List String → Except UsageFault Request
  | [] => .error .missingCommand
  | "check" :: arguments => do
      match ← readArguments Setting.ofCheck true {} arguments with
      | none => return .help
      | some r =>
          let paths := if r.paths.isEmpty then ["."] else r.paths
          return .run (.check paths r.config r.ignore (r.format.getD .text))
  | "rules" :: arguments => do
      match ← readArguments Setting.ofRules false {} arguments with
      | none => return .help
      | some r => return .run (.rules r.config (r.format.getD .text))
  | "help" :: topics =>
      match topics with
      | [] => .ok .help
      | [topic] => if topic ∈ helpTopics then .ok .help else .error (.unknownCommand topic)
      | _ :: other :: _ => .error (.unknownCommand other)
  | "--help" :: _ => .ok .help
  | "--version" :: _ => .ok .version
  | argument :: _ =>
      match argument.toList with
      | '-' :: 'h' :: _ => .ok .help
      | '-' :: 'V' :: _ => .ok .version
      | '-' :: _ :: _ => .error (.unexpectedArgument argument)
      | _ => .error (.unknownCommand argument)

def helpText : String :=
  "Check TODO annotations for author, colon, text and issue link\n\n" ++
  "Usage: " ++ Program.name ++ " <COMMAND>\n\n" ++
  "Commands:\n" ++
  "  check  Check files, directories, or \x60-\x60 for stdin\n" ++
  "  rules  List the rules a check would run\n" ++
  "  help   Print this message or the help of the given subcommand(s)\n\n" ++
  "Options:\n" ++
  "  -h, --help     Print help\n" ++
  "  -V, --version  Print version\n"

end CommandLine

end TodoLint
