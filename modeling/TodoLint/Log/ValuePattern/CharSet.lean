import TodoLint.Log.ValuePattern.Escape

/-!
Sets of characters in patterns: `[...]`, with ranges, other sets and named ones in them,
and with the operators `&&`, `--` and `~~`. Only the height of a set is kept, which is how
deep it is nested.
-/

namespace TodoLint.ValuePattern

open Text

/-- A set that is being read, without those around it. -/
structure OpenSet where
  /-- The heights of the members after the last operator. -/
  members : List Nat := []
  /-- The height of what stands before the last operator, if there is one. -/
  before : Option Nat := none

namespace OpenSet

def add (height : Nat) (s : OpenSet) : OpenSet :=
  { s with members := height :: s.members }

def height (s : OpenSet) : Nat :=
  match s.before with
  | none => jointHeight s.members
  | some height => jointHeight [height, jointHeight s.members]

/-- Reads the hyphens that stand for themselves at the start of a set. -/
def readHyphens (o : Options) (s : OpenSet) (cs : List Char) : Reading OpenSet :=
  readSteps (fun s cs =>
    match cs with
    | '-' :: rest => some (.inl (s.add 0), o.skip rest)
    | _ => some (.inr s, cs)) s cs

/-- Reads the start of a set after its bracket. A bracket right at the start stands for
itself. What is not in a set of bytes is not all text. -/
def read (o : Options) (cs : List Char) : Reading OpenSet :=
  let (negated, rest) :=
    match o.skip cs with
    | '^' :: rest => (true, o.skip rest)
    | rest => (false, rest)
  if negated ∧ !o.unicode then none
  else
    (readHyphens o {} rest).map fun (s, rest) =>
      match s.members, rest with
      | [], ']' :: rest => (s.add 0, rest)
      | _, rest => (s, rest)

end OpenSet

/-- The names of sets of ASCII characters. -/
def asciiSets : List String :=
  ["alnum", "alpha", "ascii", "blank", "cntrl", "digit", "graph", "lower", "print", "punct",
    "space", "upper", "word", "xdigit"]

/-- Reads the name of a set of ASCII characters after the bracket before it, and tells
whether the characters outside it are meant. -/
def readAsciiSet : List Char → Reading Bool
  | ':' :: cs =>
      let (negated, rest) :=
        match cs with
        | '^' :: rest => (true, rest)
        | rest => (false, rest)
      match rest.dropWhile (· ≠ ':') with
      | ':' :: ']' :: after =>
          if String.ofList (rest.takeWhile (· ≠ ':')) ∈ asciiSets then some (negated, after)
          else none
      | _ => none
  | _ => none

/-- Reads a character of a set or an escape in it, and gives the character that it stands
for, if it is one. -/
def readSetItem (o : Options) : List Char → Reading (Option Char)
  | [] => none
  | '\\' :: cs =>
      (Escape.read o cs).bind fun (escape, rest) =>
        if escape.fitsSet o then some (escape.char?, rest) else none
  | c :: cs => if o.unicode ∨ c.toNat < 0x80 then some (some c, cs) else none

/-- Reads an item of a set, or a range between two characters of which the first is not
after the second. A hyphen before another one or before the end of the set makes no
range. -/
def readSetMember (o : Options) (cs : List Char) : Reading Unit :=
  (readSetItem o cs).bind fun (first, rest) =>
    match o.skip rest with
    | '-' :: after =>
        if o.peek? after = some ']' ∨ o.peek? after = some '-' then some ((), '-' :: after)
        else
          (readSetItem o (o.skip after)).bind fun (last, rest) =>
            match first, last with
            | some first, some last => if first ≤ last then some ((), rest) else none
            | _, _ => none
    | rest => some ((), rest)

/-- Reads a part of the innermost of the sets that are open, the first of the list. The end
of the last one gives its height. -/
def readSetPart (o : Options) (s : OpenSet) (outer : List OpenSet) (cs : List Char) :
    Reading ((OpenSet × List OpenSet) ⊕ Nat) :=
  match o.skip cs with
  | [] => none
  | '[' :: rest =>
      match readAsciiSet rest with
      | some (negated, rest) =>
          if negated ∧ !o.unicode then none else some (.inl (s.add 0, outer), rest)
      | none =>
          (OpenSet.read o rest).map fun (inner, rest) => (.inl (inner, s :: outer), rest)
  | ']' :: rest =>
      match outer with
      | [] => some (.inr (1 + s.height), rest)
      | t :: outer => some (.inl (t.add (1 + s.height), outer), rest)
  | '&' :: '&' :: rest | '-' :: '-' :: rest | '~' :: '~' :: rest =>
      some (.inl (⟨[], some s.height⟩, outer), rest)
  | rest => (readSetMember o rest).map fun (_, rest) => (.inl (s.add 0, outer), rest)

/-- Reads a set after its bracket and gives its height. -/
def readSet (o : Options) (cs : List Char) : Reading Nat :=
  (OpenSet.read o cs).bind fun (s, rest) =>
    readSteps (fun (s, outer) => readSetPart o s outer) (s, []) rest

end TodoLint.ValuePattern
