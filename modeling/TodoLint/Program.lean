/-!
The identity of the program, as reports and messages show it.
-/

namespace TodoLint.Program

def name : String := "todocheck"

def version : String := "0.1.0"

/-- The configuration file that is looked for when none is named. -/
def configFile : String := "todocheck.toml"

/-- The environment variable with the specification of the log filter. -/
def logVariable : String := "RUST_LOG"

end TodoLint.Program
