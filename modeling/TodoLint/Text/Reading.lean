/-!
Readers. A reader takes what it is for from the start of a text and gives a value and the
text after it, or nothing if the text does not begin as it should.
-/

namespace TodoLint.Text

/-- What a reader gives: a value and the text after it. -/
abbrev Reading (α : Type) := Option (α × List Char)

/-- A reading with another character in front of its text. -/
def Reading.cons (c : Char) (r : Reading (List Char)) : Reading (List Char) :=
  r.map fun (text, rest) => (c :: text, rest)

/-- Takes steps until one gives a value. Every step before that has to take a character. -/
def readSteps {σ α : Type} (step : σ → List Char → Reading (σ ⊕ α)) (state : σ)
    (cs : List Char) : Reading α :=
  match step state cs with
  | none => none
  | some (.inr value, rest) => some (value, rest)
  | some (.inl next, rest) =>
      if _h : rest.length < cs.length then readSteps step next rest else none
termination_by cs.length

end TodoLint.Text
