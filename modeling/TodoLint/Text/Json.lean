/-!
JSON documents and their two layouts. The compact layout has no white space; the indented
one puts every item on a line of its own, two spaces deeper than its brackets. Empty lists
and objects are written `[]` and `{}` in both.
-/

namespace TodoLint.Text

/-- A JSON document whose numbers are natural. -/
inductive Json where
  | bool (b : Bool)
  | number (n : Nat)
  | string (s : String)
  | array (items : List Json)
  | object (fields : List (String × Json))
deriving Repr, Inhabited

namespace Json

def hexDigit (n : Nat) : Char :=
  if n < 10 then Char.ofNat (0x30 + n) else Char.ofNat (0x57 + n)

/-- How a character is written inside a string. Only quotes, backslashes and the
characters below U+0020 are escaped. -/
def escape (c : Char) : List Char :=
  if c = '"' then ['\\', '"']
  else if c = '\\' then ['\\', '\\']
  else if c = '\x08' then ['\\', 'b']
  else if c = '\x0c' then ['\\', 'f']
  else if c = '\n' then ['\\', 'n']
  else if c = '\r' then ['\\', 'r']
  else if c = '\t' then ['\\', 't']
  else if c.toNat < 0x20 then
    ['\\', 'u', '0', '0', hexDigit (c.toNat / 16), hexDigit (c.toNat % 16)]
  else [c]

def stringText (s : String) : List Char :=
  '"' :: s.toList.flatMap escape ++ ['"']

mutual

def compact : Json → List Char
  | bool true => ['t', 'r', 'u', 'e']
  | bool false => ['f', 'a', 'l', 's', 'e']
  | number n => Nat.toDigits 10 n
  | string s => stringText s
  | array [] => ['[', ']']
  | array (item :: items) => '[' :: item.compact ++ compactItems items ++ [']']
  | object [] => ['\x7b', '\x7d']
  | object ((key, value) :: fields) =>
      '\x7b' :: stringText key ++ ':' :: value.compact ++ compactFields fields ++ ['\x7d']

/-- Further items in the compact layout. -/
def compactItems : List Json → List Char
  | [] => []
  | item :: items => ',' :: item.compact ++ compactItems items

/-- Further fields in the compact layout. -/
def compactFields : List (String × Json) → List Char
  | [] => []
  | (key, value) :: fields =>
      ',' :: stringText key ++ ':' :: value.compact ++ compactFields fields

end

/-- A new line at a depth of indentation. -/
def newLine (depth : Nat) : List Char :=
  '\n' :: List.replicate (2 * depth) ' '

mutual

/-- The indented layout, `depth` being the depth of the brackets of the document. -/
def indented (depth : Nat) : Json → List Char
  | bool true => ['t', 'r', 'u', 'e']
  | bool false => ['f', 'a', 'l', 's', 'e']
  | number n => Nat.toDigits 10 n
  | string s => stringText s
  | array [] => ['[', ']']
  | array (item :: items) =>
      '[' :: newLine (depth + 1) ++ item.indented (depth + 1) ++ indentedItems depth items ++
        newLine depth ++ [']']
  | object [] => ['\x7b', '\x7d']
  | object ((key, value) :: fields) =>
      '\x7b' :: newLine (depth + 1) ++ stringText key ++ ':' :: ' ' ::
        value.indented (depth + 1) ++ indentedFields depth fields ++ newLine depth ++ ['\x7d']

/-- Further items in the indented layout. -/
def indentedItems (depth : Nat) : List Json → List Char
  | [] => []
  | item :: items =>
      ',' :: newLine (depth + 1) ++ item.indented (depth + 1) ++ indentedItems depth items

/-- Further fields in the indented layout. -/
def indentedFields (depth : Nat) : List (String × Json) → List Char
  | [] => []
  | (key, value) :: fields =>
      ',' :: newLine (depth + 1) ++ stringText key ++ ':' :: ' ' ::
        value.indented (depth + 1) ++ indentedFields depth fields

end

end Json

end TodoLint.Text
