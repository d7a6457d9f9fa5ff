import TodoLint.Text.Alphanumeric
import TodoLint.Text.Blank

/-!
Lexemes: what a rest of a line begins with when it is read as code. Strings follow the
rules of the linted language: one or three quotes, an optional prefix of letters, and a
backslash that takes the next character with it. Reading a lexeme loses nothing and always
takes at least one character (`Lexeme.piece_append_rest`, `Lexeme.piece_ne_nil`).
-/

namespace TodoLint

open Text

/-- A character that opens and closes string literals. -/
def isQuote (c : Char) : Bool :=
  c == '"' || c == '\''

/-- A character of names and numbers. -/
def isWordChar (c : Char) : Bool :=
  isAlphanumeric c || c == '_'

/-- The words that may stand right before the quote of a string literal, in lower case. -/
def stringPrefixes : List (List Char) :=
  [['r'], ['u'], ['b'], ['f'], ['b', 'r'], ['r', 'b'], ['f', 'r'], ['r', 'f']]

/-- A word that belongs to the string literal whose quote follows it, in any ASCII case. -/
def isStringPrefix (word : List Char) : Bool :=
  stringPrefixes.contains (word.map Char.toLower)

/-- The text after `n` copies of `q`, if it begins with them. -/
def stripCopies (q : Char) : Nat → List Char → Option (List Char)
  | 0, cs => some cs
  | _ + 1, [] => none
  | n + 1, c :: cs => if c = q then stripCopies q n cs else none

/-- Divides a text after the first unescaped `q`, or at its end if there is none. -/
def closeSingle (q : Char) : List Char → List Char × List Char
  | [] => ([], [])
  | '\\' :: c :: cs =>
      let (inner, rest) := closeSingle q cs
      ('\\' :: c :: inner, rest)
  | c :: cs =>
      if c = q then ([c], cs)
      else
        let (inner, rest) := closeSingle q cs
        (c :: inner, rest)

/-- Divides a text after the first unescaped `q` that two more follow. -/
def closeTriple (q : Char) : List Char → Option (List Char × List Char)
  | [] => none
  | '\\' :: c :: cs => (closeTriple q cs).map fun (inner, rest) => ('\\' :: c :: inner, rest)
  | c :: cs =>
      match stripCopies q 3 (c :: cs) with
      | some rest => some ([q, q, q], rest)
      | none => (closeTriple q cs).map fun (inner, rest) => (c :: inner, rest)

/-- What stands at the start of a rest of a line. -/
inductive Lexeme where
  /-- One white space character. -/
  | blank
  /-- A comment, which takes the whole rest. -/
  | comment
  /-- A backslash at the end of the line, which joins the next line to this one. -/
  | continuation
  /-- A word, a string literal or a single character, and the text after it. -/
  | piece (text rest : List Char)
  /-- A string literal with three quotes that is still open at the end of the line. -/
  | unclosed (quote : Char)
deriving DecidableEq, Repr

namespace Lexeme

/-- The string literal that begins with `opening`, whose last character is the quote `q`.
It has three quotes if two more follow; with one quote it ends with its line. -/
def readString (opening : List Char) (q : Char) (cs : List Char) : Lexeme :=
  match stripCopies q 2 cs with
  | some inner =>
      match closeTriple q inner with
      | some (body, rest) => piece (opening ++ q :: q :: body) rest
      | none => unclosed q
  | none =>
      let (body, rest) := closeSingle q cs
      piece (opening ++ body) rest

/-- The lexeme at the start of `c :: cs`. -/
def read (c : Char) (cs : List Char) : Lexeme :=
  if isBlank c then blank
  else if c = '#' then comment
  else if c = '\\' ∧ cs = [] then continuation
  else if isQuote c then readString [c] c cs
  else if isWordChar c then
    let word := c :: cs.takeWhile isWordChar
    match cs.dropWhile isWordChar with
    | [] => piece word []
    | q :: rest =>
        if isQuote q && isStringPrefix word then readString (word ++ [q]) q rest
        else piece word (q :: rest)
  else piece [c] cs

end Lexeme

theorem eq_of_stripCopies {q : Char} {n : Nat} {cs rest : List Char}
    (h : stripCopies q n cs = some rest) : cs = List.replicate n q ++ rest := by
  induction n generalizing cs with
  | zero => simpa [stripCopies] using h
  | succ n ih =>
      cases cs with
      | nil => simp [stripCopies] at h
      | cons c cs =>
          by_cases hc : c = q
          · simp only [stripCopies, hc, if_true] at h
            simp [hc, ih h, List.replicate_succ]
          · simp [stripCopies, hc] at h

/-- Dividing at the end of a string with one quote loses nothing. -/
theorem closeSingle_append (q : Char) (cs : List Char) :
    (closeSingle q cs).1 ++ (closeSingle q cs).2 = cs := by
  fun_induction closeSingle q cs with
  | case1 => rfl
  | case2 c cs inner rest h ih => simpa [h] using ih
  | case3 cs _ => simp
  | case4 c cs hne hc inner rest h ih => simpa [h] using ih

/-- Dividing at the end of a string with three quotes loses nothing. -/
theorem closeTriple_append {q : Char} {cs inner rest : List Char}
    (h : closeTriple q cs = some (inner, rest)) : inner ++ rest = cs := by
  fun_induction closeTriple q cs generalizing inner rest with
  | case1 => simp at h
  | case2 c cs ih =>
      simp only [Option.map_eq_some_iff, Prod.exists, Prod.mk.injEq] at h
      obtain ⟨i, r, hir, rfl, rfl⟩ := h
      simp [ih hir]
  | case3 c cs hne r hr =>
      simp only [Option.some.injEq, Prod.mk.injEq] at h
      obtain ⟨rfl, rfl⟩ := h
      simpa [List.replicate] using (eq_of_stripCopies hr).symm
  | case4 c cs hne hr ih =>
      simp only [Option.map_eq_some_iff, Prod.exists, Prod.mk.injEq] at h
      obtain ⟨i, r, hir, rfl, rfl⟩ := h
      simp [ih hir]

namespace Lexeme

theorem readString_eq_piece {opening cs text rest : List Char} {q : Char}
    (h : readString opening q cs = piece text rest) :
    ∃ body, text = opening ++ body ∧ body ++ rest = cs := by
  unfold readString at h
  split at h
  · rename_i inner hinner
    split at h
    · rename_i body after hclose
      simp only [piece.injEq] at h
      obtain ⟨rfl, rfl⟩ := h
      refine ⟨q :: q :: body, rfl, ?_⟩
      simp [eq_of_stripCopies hinner, ← closeTriple_append hclose, List.replicate]
    · simp at h
  · simp only [piece.injEq] at h
    obtain ⟨rfl, rfl⟩ := h
    exact ⟨_, rfl, closeSingle_append q cs⟩

theorem read_eq_piece {c : Char} {cs text rest : List Char} (h : read c cs = piece text rest) :
    ∃ tail, text = c :: tail ∧ tail ++ rest = cs := by
  unfold read at h
  split at h
  · simp at h
  split at h
  · simp at h
  split at h
  · simp at h
  split at h
  · obtain ⟨body, rfl, hbody⟩ := readString_eq_piece h
    exact ⟨body, rfl, hbody⟩
  split at h
  · have hsplit := List.takeWhile_append_dropWhile (p := isWordChar) (l := cs)
    simp only at h
    split at h
    · rename_i hdrop
      simp only [piece.injEq] at h
      obtain ⟨rfl, rfl⟩ := h
      exact ⟨_, rfl, by simpa [hdrop] using hsplit⟩
    · rename_i q after hdrop
      split at h
      · obtain ⟨body, rfl, rfl⟩ := readString_eq_piece h
        exact ⟨cs.takeWhile isWordChar ++ q :: body, by simp, by simpa [hdrop] using hsplit⟩
      · simp only [piece.injEq] at h
        obtain ⟨rfl, rfl⟩ := h
        exact ⟨_, rfl, by simpa [hdrop] using hsplit⟩
  · simp only [piece.injEq] at h
    obtain ⟨rfl, rfl⟩ := h
    exact ⟨[], rfl, rfl⟩

/-- A piece of code and the text after it make up the text that was read. -/
theorem piece_append_rest {c : Char} {cs text rest : List Char}
    (h : read c cs = piece text rest) : text ++ rest = c :: cs := by
  obtain ⟨tail, rfl, rfl⟩ := read_eq_piece h
  rfl

theorem piece_ne_nil {c : Char} {cs text rest : List Char} (h : read c cs = piece text rest) :
    text ≠ [] := by
  obtain ⟨tail, rfl, _⟩ := read_eq_piece h
  exact List.cons_ne_nil _ _

/-- The text after a piece of code is shorter than the text that was read. -/
theorem length_rest_le {c : Char} {cs text rest : List Char}
    (h : read c cs = piece text rest) : rest.length ≤ cs.length := by
  obtain ⟨tail, rfl, rfl⟩ := read_eq_piece h
  simp

end Lexeme

end TodoLint
