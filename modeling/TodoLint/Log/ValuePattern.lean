import TodoLint.Log.ValuePattern.CharSet
import TodoLint.Text.Alphanumeric
import TodoLint.Text.Substring

/-!
The patterns that a log directive may demand of the value of a field. No record has such a
value, so it does not matter what a pattern matches, but a filter with an ill-formed one
is ill-formed.

A pattern stands before the first closing brace, comma and equals sign of its directive, so
none of these is in it. This leaves no closed form to counts of repetitions and to escapes
in braces, which makes every bare opening brace ill-formed.
-/

namespace TodoLint.ValuePattern

open Text

/-- A part of an alternative: how deep it is nested, and whether it may be repeated. -/
structure Part where
  height : Nat
  repeatable : Bool := true
deriving DecidableEq, Repr

/-- A group that is being read, or the whole pattern, without the groups in it that are
still open. -/
structure OpenGroup where
  /-- The options in force. Those of a group end with it. -/
  options : Options := {}
  /-- The heights of the alternatives before the last one. -/
  alternatives : List Nat := []
  /-- The parts of the last alternative, the last one first. -/
  parts : List Part := []

namespace OpenGroup

def add (part : Part) (g : OpenGroup) : OpenGroup :=
  { g with parts := part :: g.parts }

def lastHeight (g : OpenGroup) : Nat :=
  jointHeight (g.parts.map (·.height))

def height (g : OpenGroup) : Nat :=
  jointHeight (g.lastHeight :: g.alternatives)

end OpenGroup

def isGroupName : List Char → Bool
  | [] => false
  | c :: cs =>
      (c = '_' || isAlphabetic c) && cs.all fun c => isAlphanumeric c || c ∈ "_.[]".toList

/-- What a parenthesis begins. -/
inductive Opening where
  /-- Nothing but a change of the options. -/
  | options (o : Options)
  /-- A group with options of its own, and its name if it has one. -/
  | group (o : Options) (name : Option (List Char))

/-- Reads what follows a parenthesis. -/
def Opening.read (o : Options) (cs : List Char) : Reading Opening :=
  match o.skip cs with
  | '?' :: 'P' :: '<' :: rest | '?' :: '<' :: rest =>
      let name := rest.takeWhile (· ≠ '>')
      match rest.dropWhile (· ≠ '>') with
      | [] => none
      | _ :: after => if isGroupName name then some (group o (some name), after) else none
  | '?' :: rest =>
      let word := rest.takeWhile fun c => c ≠ ':' ∧ c ≠ ')'
      if !isOptionWord word then none
      else
        match rest.drop word.length with
        | [] => none
        | ')' :: after => if word = [] then none else some (options (o.set word), after)
        | _ :: after => some (group (o.set word) none, after)
  | rest => some (group o none, rest)

/-- A pattern that is being read. -/
structure Progress where
  /-- The names of the groups. No two groups have one name. -/
  names : List (List Char) := []
  /-- The innermost group that is open. -/
  group : OpenGroup := {}
  /-- The groups around it. -/
  outer : List OpenGroup := []

namespace Progress

/-- The pattern with another part of its innermost group. -/
def add (part : Part) (p : Progress) : Progress :=
  { p with group := p.group.add part }

/-- The pattern after the beginning of a group, if its name is new. -/
def open? (p : Progress) (o : Options) (name : Option (List Char)) : Option Progress :=
  if name.any (· ∈ p.names) then none
  else some ⟨name.toList ++ p.names, { options := o }, p.group :: p.outer⟩

/-- The pattern after the end of its innermost group. -/
def close? (p : Progress) : Option Progress :=
  match p.outer with
  | [] => none
  | g :: outer => some { p with group := g.add ⟨1 + p.group.height, true⟩, outer := outer }

/-- The pattern after a mark of repetition, which is about the part before it. -/
def repeat? (p : Progress) : Option Progress :=
  match p.group.parts with
  | ⟨height, true⟩ :: parts =>
      some { p with group := { p.group with parts := ⟨1 + height, true⟩ :: parts } }
  | _ => none

/-- Reads a part of a pattern. The end of the pattern gives its height. -/
def readPart (p : Progress) (cs : List Char) : Reading (Progress ⊕ Nat) :=
  let o := p.group.options
  match o.skip cs with
  | [] => if p.outer.isEmpty then some (.inr p.group.height, []) else none
  | c :: rest =>
      match c with
      | '(' =>
          match Opening.read o rest with
          | none => none
          | some (.options o, rest) =>
              let changed := { p with group := { p.group with options := o } }
              some (.inl (changed.add ⟨0, false⟩), rest)
          | some (.group o name, rest) => (p.open? o name).map fun p => (.inl p, rest)
      | ')' => p.close?.map fun p => (.inl p, rest)
      | '|' =>
          let alternatives := p.group.lastHeight :: p.group.alternatives
          let next : OpenGroup := { p.group with alternatives := alternatives, parts := [] }
          some (.inl { p with group := next }, rest)
      | '[' => (readSet o rest).map fun (height, rest) => (.inl (p.add ⟨height, true⟩), rest)
      | '?' | '*' | '+' =>
          let rest := if rest.head? = some '?' then rest.tail else rest
          p.repeat?.map fun p => (.inl p, rest)
      | '\x7b' => none
      | '.' => if o.unicode then some (.inl (p.add ⟨0, true⟩), rest) else none
      | '\\' =>
          (Escape.read o rest).bind fun (escape, rest) =>
            if escape.fits o then some (.inl (p.add ⟨0, true⟩), rest) else none
      | _ => some (.inl (p.add ⟨0, true⟩), rest)

end Progress

/-- How deep a pattern may be nested. -/
def maxHeight : Nat := 250

def isPattern (cs : List Char) : Bool :=
  match readSteps Progress.readPart {} cs with
  | some (height, _) => height ≤ maxHeight
  | none => false

/-- The text is a number with a plus sign: digits, perhaps a point among them, and perhaps
an exponent, or the name of a number that is none. -/
def isPositive (cs : List Char) : Bool :=
  match cs with
  | '+' :: cs =>
      let (whole, rest) := cs.span Char.isDigit
      let (fraction, rest) :=
        match rest with
        | '.' :: rest => rest.span Char.isDigit
        | _ => ([], rest)
      let isExponent : List Char → Bool
        | [] => true
        | e :: '+' :: digits | e :: '-' :: digits | e :: digits =>
            e.toLower = 'e' && digits != [] && digits.all Char.isDigit
      ["inf", "infinity", "nan"].any (sameAscii (String.ofList cs)) ||
        whole ++ fraction != [] && isExponent rest
  | _ => false

/-- The text is a pattern or a number. Without a plus sign every number is a pattern. -/
def isWellFormed (cs : List Char) : Bool :=
  isPositive cs || isPattern cs

end TodoLint.ValuePattern
