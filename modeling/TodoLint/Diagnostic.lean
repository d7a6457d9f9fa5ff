import TodoLint.Check

/-!
Diagnostics: findings in the form that host programs take.
-/

namespace TodoLint

/-- The program that a diagnostic comes from. -/
structure Plugin where
  name : String := Program.name
  version : String := Program.version
deriving DecidableEq, Repr

/-- A finding for a host program. -/
structure Diagnostic where
  row : Nat
  col : Nat
  message : String
  plugin : Plugin
deriving DecidableEq, Repr

/-- The diagnostics of a source. -/
def Registry.diagnose (r : Registry) (source : String) : Except Failure (List Diagnostic) :=
  (r.checkSource source).map fun findings => findings.map fun f => ⟨f.row, f.col, f.message, {}⟩

end TodoLint
