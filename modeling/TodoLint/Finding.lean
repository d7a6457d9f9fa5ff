import TodoLint.Token

/-!
Findings: the defects that rules report.
-/

namespace TodoLint

/-- The name of a rule code: the code after the mark of the whole family of rules. -/
def codeName (code : Nat) : String :=
  "T00" ++ toString code

/-- A defect at a place of the source. -/
structure Finding where
  row : Nat
  col : Nat
  code : Nat
  text : String
deriving DecidableEq, Repr

namespace Finding

/-- A finding at the start of a token. -/
def ofToken (token : Token) (code : Nat) (text : String) : Finding :=
  ⟨token.start.row, token.start.col, code, text⟩

/-- The finding in words, after the name of its code. -/
def message (f : Finding) : String :=
  codeName f.code ++ ": " ++ f.text

end Finding

end TodoLint
