/-!
Numerals of ASCII digits.
-/

namespace TodoLint.Text

/-- The value of a digit in a base up to sixteen. -/
def digit? (base : Nat) (c : Char) : Option Nat :=
  let value? : Option Nat :=
    if '0' ≤ c ∧ c ≤ '9' then some (c.toNat - 0x30)
    else if 'a' ≤ c ∧ c ≤ 'f' then some (c.toNat - 0x57)
    else if 'A' ≤ c ∧ c ≤ 'F' then some (c.toNat - 0x37)
    else none
  value?.filter (· < base)

/-- The number that decimal digits write, of which there has to be one. Zeros in front do not
count. -/
def numeral? (cs : List Char) : Option Nat :=
  if cs = [] ∨ !cs.all Char.isDigit then none
  else some (cs.foldl (fun n c => 10 * n + (c.toNat - 0x30)) 0)

/-- The numeral may have a plus sign in front. -/
def plusNumeral? : List Char → Option Nat
  | '+' :: digits => numeral? digits
  | digits => numeral? digits

end TodoLint.Text
