import TodoLint.Log
import TodoLint.Log.ValuePattern
import TodoLint.Text.Blank
import TodoLint.Text.Bytes
import TodoLint.Text.Numeral

/-!
The directives of a log filter. A directive is a level, or a target, a demand in brackets
and a level, each of which may be missing: `debug`, `todocheck=debug`,
`todocheck[span{field=value}]=debug`. White space around it is no part of its form.
-/

namespace TodoLint

open Text

/-- A field that a directive demands, and the pattern for its value if there is one. -/
structure LogField where
  name : List Char
  pattern : Option (List Char) := none
deriving DecidableEq, Repr

/-- Up to which rank the records of a target are shown that meet the demands for a span
that they are made in and for a field. -/
structure LogDirective where
  target : List Char := []
  span : Option (List Char) := none
  field : Option LogField := none
  rank : Nat := LogLevel.trace.rank
deriving DecidableEq, Repr

/-- Why a specification gives no filter. -/
inductive LogSpecFault where
  | malformed
  /-- A word of a directive would begin or end inside a character. -/
  | splitCharacter
deriving DecidableEq, Repr

namespace LogDirective

/-- The rank up to which a word lets records through: the name of a level in any case, its
number, or `off` or zero for none. -/
def rank? (word : List Char) : Option Nat :=
  let names := ["off", "error", "warn", "info", "debug", "trace"]
  ((plusNumeral? word).filter (· < names.length)).or
    (names.findIdx? (sameAscii (String.ofList word)))

/-- A character with which a directive may begin, if it does not begin with its demand. -/
def isFirst (c : Char) : Bool :=
  isAlphanumeric c || c = '_' || c = ':' || c = '-'

/-- How far the reading of a directive has come. The form of a directive is its text
without the white space around it, but its words are cut out of the text with that white
space: each by the number of bytes before it in the form. So white space in front shifts
them. -/
structure Progress where
  text : List Char
  /-- The bytes of the form that were read. -/
  offset : Nat
  /-- What is left of the form. -/
  rest : List Char

namespace Progress

/-- The beginning of the form of a text. -/
def start (text : List Char) : Progress :=
  ⟨text, 0, trim text⟩

/-- So many characters further. -/
def skip (n : Nat) (p : Progress) : Progress :=
  ⟨p.text, p.offset + byteLength (p.rest.take n), p.rest.drop n⟩

/-- The next of some marks, and the place before it. -/
def next? (marks : List Char) (p : Progress) : Option (Char × Progress) :=
  let q := p.skip (p.rest.takeWhile (· ∉ marks)).length
  q.rest.head?.map (·, q)

/-- The word between two places. -/
def wordTo (p stop : Progress) : Except LogSpecFault (List Char) :=
  match byteSlice? p.offset stop.offset p.text with
  | some word => .ok word
  | none => .error .splitCharacter

/-- The word from a place to the end of the text. -/
def lastWord (p : Progress) : Except LogSpecFault (List Char) :=
  match splitAtByte? p.offset p.text with
  | some (_, word) => .ok word
  | none => .error .splitCharacter

end Progress

/-- The field that a word demands. What follows a second equals sign is not looked at. -/
def fieldOfWord (word : List Char) : Except LogSpecFault LogField :=
  match splitAll '=' word with
  | [] | [[]] => .error .malformed
  | [name] => .ok ⟨name, none⟩
  | name :: pattern :: _ =>
      if ValuePattern.isWellFormed pattern then .ok ⟨name, some pattern⟩ else .error .malformed

/-- Reads the level after an equals sign. Without a level everything is shown. -/
def readLevel (d : LogDirective) (p : Progress) : Except LogSpecFault LogDirective := do
  let word ← p.lastWord
  if word = [] then return d
  match rank? word with
  | some rank => return { d with rank := rank }
  | none => throw .malformed

/-- Reads what follows the demand. -/
def readEnd (d : LogDirective) (p : Progress) : Except LogSpecFault LogDirective :=
  match p.rest with
  | [] => .ok d
  | '=' :: _ => d.readLevel (p.skip 1)
  | _ => .error .malformed

/-- Reads the field of a demand and what follows it. -/
def readField (d : LogDirective) (p : Progress) : Except LogSpecFault LogDirective := do
  match p.next? ['\x7d'] with
  | none => throw .malformed
  | some (_, stop) =>
      let field ← fieldOfWord (← p.wordTo stop)
      match stop.rest with
      | _ :: ']' :: _ => readEnd { d with field := some field } (stop.skip 2)
      | _ => throw .malformed

/-- Reads a demand and what follows it. -/
def readDemand (d : LogDirective) (p : Progress) : Except LogSpecFault LogDirective := do
  match p.next? [']', '\x7b'] with
  | none => throw .malformed
  | some (mark, stop) =>
      let name ← p.wordTo stop
      if mark = ']' then readEnd { d with span := some name } (stop.skip 1)
      else readField { d with span := if name = [] then none else some name } (stop.skip 1)

/-- Reads a directive that is a level, or a target without a level. -/
def ofWord (word : List Char) : LogDirective :=
  match rank? word with
  | some rank => { rank := rank }
  | none => { target := word }

/-- The directive with a text. -/
def ofText (text : List Char) : Except LogSpecFault LogDirective := do
  let p := Progress.start text
  match p.rest with
  | [] => throw .malformed
  | '[' :: _ => readDemand {} (p.skip 1)
  | c :: _ =>
      if !isFirst c then throw .malformed
      match p.next? ['=', '['] with
      | none => return ofWord (← p.lastWord)
      | some (mark, stop) =>
          let target ← p.wordTo stop
          let read := if mark = '=' then readLevel else readDemand
          read { target := target } (stop.skip 1)

/-- The directive is about the records of a target. As no record is made in a span or has
a field other than its message, which has no value, a directive that demands such a thing
is about no record. -/
def concerns (d : LogDirective) (target : String) : Bool :=
  d.target.isPrefixOf target.toList && d.span.isNone &&
    (d.field.getD ⟨"message".toList, none⟩ == ⟨"message".toList, none⟩)

/-- The directive is no more special than another: its target is shorter, or as long and
it does not demand a field or the other demands one too. -/
def isWithin (d e : LogDirective) : Bool :=
  d.target.length < e.target.length ||
    d.target.length == e.target.length && (d.field.isNone || e.field.isSome)

end LogDirective

end TodoLint
