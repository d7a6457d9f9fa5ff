/-!
Patterns over characters. Among the ways in which a pattern matches, the order of the
alternatives decides and runs of characters prefer to be long; `Pattern.rests` lists what
the ways leave over, the preferred one first. A search takes the preferred way at the
leftmost place that has one.
-/

namespace TodoLint.Text

/-- What a stretch of text has to look like. -/
inductive Pattern where
  /-- Nothing at all. -/
  | empty
  /-- No text matches. -/
  | never
  /-- One character of a class. -/
  | one (accepts : Char → Bool)
  /-- At least `least` and, given a bound, at most `most` characters of a class. -/
  | run (accepts : Char → Bool) (least : Nat) (most : Option Nat)
  /-- One pattern right after another. -/
  | seq (first second : Pattern)
  /-- One pattern, or else another. -/
  | either (first second : Pattern)

namespace Pattern

/-- The patterns of a list one after another. -/
def inOrder (ps : List Pattern) : Pattern :=
  ps.foldr seq empty

/-- The first pattern of a list that matches. -/
def anyOf (ps : List Pattern) : Pattern :=
  ps.foldr either never

/-- What is left over by a run of accepted characters, the longest run first. -/
def runRests (accepts : Char → Bool) : Nat → Option Nat → List Char → List (List Char)
  | least, _, [] => if least = 0 then [[]] else []
  | least, most, c :: cs =>
      let longer :=
        if accepts c && most != some 0 then
          runRests accepts (least - 1) (most.map (· - 1)) cs
        else []
      if least = 0 then longer ++ [c :: cs] else longer

/-- What the ways of matching at the start of a text leave over, in order of preference. -/
def rests : Pattern → List Char → List (List Char)
  | empty, cs => [cs]
  | never, _ => []
  | one _, [] => []
  | one accepts, c :: cs => if accepts c then [cs] else []
  | run accepts least most, cs => runRests accepts least most cs
  | seq first second, cs => (first.rests cs).flatMap second.rests
  | either first second, cs => first.rests cs ++ second.rests cs

/-- Some stretch of the text matches. -/
def occursIn (p : Pattern) : List Char → Bool
  | [] => !(p.rests []).isEmpty
  | c :: cs => !(p.rests (c :: cs)).isEmpty || p.occursIn cs

end Pattern

end TodoLint.Text
