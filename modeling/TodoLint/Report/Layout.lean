import TodoLint.Report
import TodoLint.Report.Style
import TodoLint.Text.Json
import TodoLint.Text.Substring

/-!
Reports and lists of rules in writing: as plain text, or as JSON in one of two layouts.
-/

namespace TodoLint

open Text Report

/-- How output is written. -/
inductive Format where
  | text
  | json
  | jsonIndented
deriving DecidableEq, Repr, Inhabited

namespace Format

/-- The name of a format on the command line. -/
def name : Format → String
  | text => "text"
  | json => "json"
  | jsonIndented => "json-pretty"

def all : List Format :=
  [text, json, jsonIndented]

def ofName? (s : String) : Option Format :=
  all.find? (·.name == s)

end Format

def FileFinding.toJson (f : FileFinding) : Json :=
  .object [("path", .string f.path), ("row", .number f.row), ("col", .number f.col),
    ("code", .string f.code), ("message", .string f.message)]

def InputFailure.toJson (f : InputFailure) : Json :=
  .object [("path", .string f.path), ("reason", .string f.reason),
    ("unreadable", .bool f.unreadable)]

namespace Report

/-- A report as a JSON object. -/
def toJson (r : Report) : Json :=
  .object [("files_checked", .number r.filesChecked),
    ("findings", .array (r.findings.map FileFinding.toJson)),
    ("failures", .array (r.failures.map InputFailure.toJson))]

/-- The part of a message after the first colon and space, or the whole message if it has
none. -/
def messageText (message : String) : String :=
  match afterFirst? [':', ' '] message.toList with
  | some text => String.ofList text
  | none => message

/-- The line of a finding. -/
def findingLine (color : Bool) (f : FileFinding) : String :=
  Style.dimmed.paint color (f.path ++ ":" ++ toString f.row ++ ":" ++ toString f.col) ++ ": " ++
    Style.boldYellow.paint color f.code ++ " " ++ messageText f.message ++ "\n"

/-- The line of a failure. -/
def failureLine (color : Bool) (f : InputFailure) : String :=
  Style.boldRed.paint color "ERROR" ++ " " ++ Style.dimmed.paint color f.path ++ " - " ++
    f.reason ++ "\n"

/-- The last line of a report: how many findings and failures it has. -/
def verdictLine (color : Bool) (r : Report) : String :=
  let found := toString r.findings.length
  if !r.failures.isEmpty then
    Style.yellow.paint color found ++ " findings, " ++
      Style.boldRed.paint color (toString r.failures.length) ++ " unreadable inputs\n"
  else if !r.findings.isEmpty then
    Style.boldYellow.paint color found ++ " findings\n"
  else
    Style.boldGreen.paint color "OK" ++ " No issues found\n"

/-- A report as plain text: a line for each finding and failure, and a summary. -/
def toText (color : Bool) (r : Report) : String :=
  String.join (r.findings.map (findingLine color)) ++
    String.join (r.failures.map (failureLine color)) ++
    "\nChecked " ++ toString r.filesChecked ++ " files\n" ++ r.verdictLine color

/-- A report in a format. Colours are for plain text alone. -/
def render (format : Format) (color : Bool) (r : Report) : String :=
  match format with
  | .text => r.toText color
  | .json => String.ofList r.toJson.compact
  | .jsonIndented => String.ofList (r.toJson.indented 0)

end Report

namespace Rule

/-- A rule as a JSON object. -/
def toJson (rule : Rule) : Json :=
  .object [("code", .string (codeName rule.code)), ("name", .string rule.name),
    ("message", .string rule.text)]

/-- The line of a rule in a list of rules. -/
def listLine (color : Bool) (rule : Rule) : String :=
  Style.bold.paint color (codeName rule.code) ++ " " ++
    Style.cyan.paintPadded color 14 rule.name ++ " " ++ rule.text ++ "\n"

end Rule

/-- The rules of a registry in a format. -/
def Registry.render (format : Format) (color : Bool) (r : Registry) : String :=
  match format with
  | .text => String.join (r.rules.map (Rule.listLine color))
  | .json => String.ofList (Json.array (r.rules.map Rule.toJson)).compact
  | .jsonIndented => String.ofList ((Json.array (r.rules.map Rule.toJson)).indented 0)

end TodoLint
