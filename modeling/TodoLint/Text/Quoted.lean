import TodoLint.Text.Blank

/-!
Texts shown between quotes, so that white space in them can be seen.
-/

namespace TodoLint.Text

/-- How a character is shown between quotes. Every white space character but the space
itself, and every control character, is shown by an escape. -/
def shown (c : Char) : List Char :=
  if c = '"' then ['\\', '"']
  else if c = '\\' then ['\\', '\\']
  else if c = '\t' then ['\\', 't']
  else if c = '\n' then ['\\', 'n']
  else if c = '\r' then ['\\', 'r']
  else if c = '\x00' then ['\\', '0']
  else if c ≠ ' ' ∧ (isBlank c ∨ c.toNat < 0x20 ∨ (0x7F ≤ c.toNat ∧ c.toNat < 0xA0)) then
    ['\\', 'u', '\x7b'] ++ Nat.toDigits 16 c.toNat ++ ['\x7d']
  else [c]

def quoted (text : String) : String :=
  String.ofList (['"'] ++ text.toList.flatMap shown ++ ['"'])

end TodoLint.Text
