import TodoLint.Log.ValuePattern.Options
import TodoLint.Text.Numeral
import TodoLint.Text.Reading

/-!
Escapes in patterns.
-/

namespace TodoLint.ValuePattern

open Text

/-- What an escape stands for. -/
inductive Escape where
  /-- A character. It is written as a byte if `byte` is set. -/
  | literal (c : Char) (byte : Bool)
  /-- The digits, the white space or the characters of words, or all but these. -/
  | kind (negated : Bool)
  /-- The characters of a Unicode category. -/
  | category
  /-- The start or the end of the text. -/
  | textEdge
  /-- The start or the end of a word, or a place that is neither. -/
  | wordEdge
deriving DecidableEq, Repr

namespace Escape

/-- The escape may stand outside sets. The edges of Unicode words are no part of these
patterns, and a pattern about bytes may not match a part of a character. -/
def fits (o : Options) : Escape → Bool
  | literal c byte => o.unicode || !byte || c.toNat < 0x80
  | kind negated => o.unicode || !negated
  | category => o.unicode
  | textEdge => true
  | wordEdge => !o.unicode

def fitsSet (o : Options) : Escape → Bool
  | literal c _ => o.unicode || c.toNat < 0x80
  | kind negated => o.unicode || !negated
  | category => o.unicode
  | textEdge | wordEdge => false

/-- The character of an escape that stands for one. -/
def char? : Escape → Option Char
  | literal c _ => some c
  | _ => none

/-- The letters of the Unicode categories that consist of others, in any case. -/
def categories : List Char :=
  "CLMNPSZclmnpsz".toList

/-- Reads the rest of a number of so many hexadecimal digits. -/
def hexNumber (o : Options) : Nat → Nat → List Char → Reading Nat
  | 0, value, cs => some (value, cs)
  | width + 1, value, cs =>
      match o.skip cs with
      | [] => none
      | c :: rest =>
          (digit? 16 c).bind fun digit => hexNumber o width (16 * value + digit) rest

/-- Reads the character whose code point so many hexadecimal digits write. -/
def hexLiteral (o : Options) (width : Nat) (byte : Bool) (cs : List Char) : Reading Escape :=
  (hexNumber o width 0 cs).bind fun (n, rest) =>
    if n.isValidChar then some (literal (Char.ofNat n) byte, rest) else none

/-- Reads an escape after its backslash. Any ASCII character that is no letter and no digit
stands for itself, apart from the two that mark the edges of words. -/
def read (o : Options) : List Char → Reading Escape
  | [] => none
  | c :: cs =>
      match c with
      | 'x' => hexLiteral o 2 true cs
      | 'u' => hexLiteral o 4 false cs
      | 'U' => hexLiteral o 8 false cs
      | 'p' | 'P' =>
          match o.skip cs with
          | [] => none
          | letter :: rest => if letter ∈ categories then some (category, rest) else none
      | 'd' | 's' | 'w' => some (kind false, cs)
      | 'D' | 'S' | 'W' => some (kind true, cs)
      | 'A' | 'z' => some (textEdge, cs)
      | 'b' | 'B' | '<' | '>' => some (wordEdge, cs)
      | 'a' => some (literal '\x07' false, cs)
      | 'f' => some (literal '\x0c' false, cs)
      | 't' => some (literal '\t' false, cs)
      | 'n' => some (literal '\n' false, cs)
      | 'r' => some (literal '\r' false, cs)
      | 'v' => some (literal '\x0b' false, cs)
      | _ => if c.toNat < 0x80 ∧ !c.isAlphanum then some (literal c false, cs) else none

end Escape

end TodoLint.ValuePattern
