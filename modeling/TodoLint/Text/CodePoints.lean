/-!
Ascending tables of code points. A property of characters is a list of intervals
(`CodePoints`) or of evenly spaced runs (`Strides`); a mapping of characters is a list
of runs with the image of their first member (`StrideMap`). A search stops at the first
interval that begins after the code point sought, so a table has to be ascending.
-/

namespace TodoLint.Text

/-- The closed intervals of a property, in ascending order. -/
abbrev CodePoints := List (Nat × Nat)

/-- Membership of a code point in an ascending list of intervals. -/
def CodePoints.contains (n : Nat) : CodePoints → Bool
  | [] => false
  | (first, last) :: rest =>
      if n < first then false else n ≤ last || CodePoints.contains n rest

/-- The code points `first`, `first + step`, and so on, none above `last`. -/
structure Stride where
  first : Nat
  last : Nat
  step : Nat
deriving DecidableEq, Repr

def Stride.contains (r : Stride) (n : Nat) : Bool :=
  r.first ≤ n && n ≤ r.last && (n - r.first) % r.step == 0

/-- The runs of a property, in ascending order. -/
abbrev Strides := List Stride

def Strides.contains (n : Nat) : Strides → Bool
  | [] => false
  | r :: rest => if n < r.first then false else r.contains n || Strides.contains n rest

/-- A run whose members are moved together, so that `run.first` goes to `target`. -/
structure StrideImage where
  run : Stride
  target : Nat
deriving DecidableEq, Repr

/-- A mapping of code points as ascending runs with their images. -/
abbrev StrideMap := List StrideImage

/-- The image of a code point, if it belongs to one of the runs. -/
def StrideMap.find? (n : Nat) : StrideMap → Option Nat
  | [] => none
  | m :: rest =>
      if n < m.run.first then none
      else if m.run.contains n then some (m.target + (n - m.run.first))
      else StrideMap.find? n rest

/-- The image of a character, which is the character itself outside the runs. -/
def StrideMap.apply (table : StrideMap) (c : Char) : Char :=
  ((table.find? c.toNat).map Char.ofNat).getD c

end TodoLint.Text
