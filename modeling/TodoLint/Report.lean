import TodoLint.Failure

/-!
Reports: what a check of several inputs has come to.
-/

namespace TodoLint

/-- A finding and the input that it was made in. -/
structure FileFinding where
  path : String
  row : Nat
  col : Nat
  code : String
  message : String
deriving DecidableEq, Repr

def FileFinding.ofFinding (path : String) (f : Finding) : FileFinding :=
  ⟨path, f.row, f.col, codeName f.code, f.message⟩

/-- An input that could not be checked. -/
structure InputFailure where
  path : String
  reason : String
  /-- The input could not even be read. -/
  unreadable : Bool
deriving DecidableEq, Repr

/-- The results of a check. -/
structure Report where
  filesChecked : Nat := 0
  findings : List FileFinding := []
  failures : List InputFailure := []
deriving DecidableEq, Repr, Inhabited

namespace Report

/-- Nothing was found and nothing went wrong. -/
def passed (r : Report) : Bool :=
  r.findings.isEmpty && r.failures.isEmpty

/-- Both reports in one, in this order. -/
def merge (r s : Report) : Report :=
  ⟨r.filesChecked + s.filesChecked, r.findings ++ s.findings, r.failures ++ s.failures⟩

/-- The report on an input that could not be checked. -/
def ofFailure (path : String) (failure : Failure) : Report :=
  { failures := [⟨path, failure.message, failure.isUnreadable⟩] }

end Report

end TodoLint
