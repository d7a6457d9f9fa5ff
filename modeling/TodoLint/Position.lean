/-!
Places in a source text.
-/

namespace TodoLint

/-- A row and a column, both counted from one. Columns count characters. -/
structure Position where
  row : Nat
  col : Nat
deriving DecidableEq, Repr, Inhabited

end TodoLint
