import TodoLint.Config
import TodoLint.Config.Literal

/-!
Configuration documents. A document gives each of the keys `tags`, `bad_tags` and `ignore`
at most once, as a list of strings or of rule codes; a key that is not given keeps its
default. A document with anything else in it, a table or another key, is not valid.
-/

namespace TodoLint.Config.Document

open Literal Text

/-- Spaces and tabs, which separate what stands on one line. -/
def skipBlanks (cs : List Char) : List Char :=
  cs.dropWhile fun c => c = ' ' || c = '\t'

/-- The text after the end of a line, which may be the end of the document. Spaces, tabs
and a comment may come before it. -/
def endLine (cs : List Char) : Option (List Char) :=
  let rest :=
    match skipBlanks cs with
    | '#' :: comment => comment.dropWhile isPlain
    | other => other
  match rest with
  | [] => some []
  | '\n' :: next => some next
  | '\r' :: '\n' :: next => some next
  | _ => none

/-- The text after the white space, line breaks and comments between the items of a list.
A comment ends with its line. -/
def skipFiller (inComment : Bool) : List Char → Option (List Char)
  | [] => if inComment then none else some []
  | '\n' :: cs => skipFiller false cs
  | '\r' :: '\n' :: cs => skipFiller false cs
  | c :: cs =>
      if inComment then
        if isPlain c then skipFiller true cs else none
      else if c = '#' then skipFiller true cs
      else if c = ' ' ∨ c = '\t' then skipFiller false cs
      else some (c :: cs)

/-- The items of a list up to its closing bracket. The text has to grow shorter with each
item, as it does when an item takes a character. -/
def items {α : Type} (item : List Char → Reading α) (cs : List Char) : Reading (List α) :=
  match skipFiller false cs with
  | none => none
  | some (']' :: rest) => some ([], rest)
  | some start =>
      match item start with
      | none => none
      | some (first, afterItem) =>
          match skipFiller false afterItem with
          | some (']' :: rest) => some ([first], rest)
          | some (',' :: next) =>
              if _h : next.length < cs.length then
                (items item next).map fun (others, rest) => (first :: others, rest)
              else none
          | _ => none
termination_by cs.length

/-- A list in brackets. -/
def list? {α : Type} (item : List Char → Reading α) : List Char → Reading (List α)
  | '[' :: cs => items item cs
  | _ => none

/-- A rule code, which has at most 32 bits. -/
def code? (cs : List Char) : Reading Nat :=
  (natural? cs).filter fun (n, _) => n < UInt32.size

/-- A key of its own characters or in quotes on one line. -/
def key? (cs : List Char) : Reading String :=
  match cs with
  | '"' :: rest => (basicLine rest).map fun (text, after) => (String.ofList text, after)
  | '\'' :: rest => (literalLine rest).map fun (text, after) => (String.ofList text, after)
  | _ =>
      let isBare := fun c : Char => c.isAlphanum || c = '_' || c = '-'
      match cs.takeWhile isBare with
      | [] => none
      | word => some (String.ofList word, cs.dropWhile isBare)

/-- The keys given so far. -/
structure Given where
  tags : Option (List String) := none
  badTags : Option (List String) := none
  ignore : Option (List Nat) := none

def Given.toConfig (g : Given) : Config where
  tags := g.tags.getD ({} : Config).tags
  badTags := g.badTags.getD ({} : Config).badTags
  ignore := g.ignore.getD ({} : Config).ignore

/-- A value for a key that was not given before. -/
def Given.assign (g : Given) (key : String) (cs : List Char) : Reading Given :=
  match key with
  | "tags" =>
      if g.tags.isSome then none
      else (list? string? cs).map fun (v, rest) => ({ g with tags := some v }, rest)
  | "bad_tags" =>
      if g.badTags.isSome then none
      else (list? string? cs).map fun (v, rest) => ({ g with badTags := some v }, rest)
  | "ignore" =>
      if g.ignore.isSome then none
      else (list? code? cs).map fun (v, rest) => ({ g with ignore := some v }, rest)
  | _ => none

/-- A line with a key and its value, or without any; a value may go over several lines. -/
def statement (g : Given) (cs : List Char) : Reading Given :=
  match endLine cs with
  | some rest => some (g, rest)
  | none =>
      match key? (skipBlanks cs) with
      | none => none
      | some (key, afterKey) =>
          match skipBlanks afterKey with
          | '=' :: value =>
              match g.assign key (skipBlanks value) with
              | none => none
              | some (g', afterValue) => (endLine afterValue).map (g', ·)
          | _ => none

/-- The lines of a document after those that gave `g`. The text has to grow shorter with
each line, as it does when a line takes a character. -/
def statements (g : Given) (cs : List Char) : Option Given :=
  if cs = [] then some g
  else
    match statement g cs with
    | none => none
    | some (g', rest) => if _h : rest.length < cs.length then statements g' rest else none
termination_by cs.length

/-- The text without the mark of its encoding that may stand at its start. -/
def skipEncodingMark : List Char → List Char
  | '\uFEFF' :: cs => cs
  | cs => cs

end TodoLint.Config.Document

namespace TodoLint

/-- The configuration that a document gives, if the document is valid. -/
def Config.ofDocument? (document : String) : Option Config :=
  (Config.Document.statements {} (Config.Document.skipEncodingMark document.toList)).map
    Config.Document.Given.toConfig

end TodoLint
