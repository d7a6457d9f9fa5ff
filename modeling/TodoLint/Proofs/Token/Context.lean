import TodoLint.Proofs.Position
import TodoLint.Proofs.Token.Lexeme
import TodoLint.Token.Stream

/-!
The comments of a source without its lines. One scan over all characters keeps the context
that a character stands in: code, or a string literal with one or three quotes at each end.
The tokens that are read line by line hold the same comments, and reading them fails where the
scan ends in a string literal (`tokenize_map_comments`).
-/

namespace TodoLint

open Text

/-- What a character of a source stands in. -/
inductive Context where
  | code
  /-- A string literal with one quote at each end. -/
  | single (quote : Char)
  /-- A string literal with three quotes at each end that was opened on `row`. -/
  | triple (quote : Char) (row : Nat)
deriving DecidableEq, Repr

namespace Context

/-- The context after `c`, which stands on `row` before `cs`, and the number of the next
characters that are passed over. -/
def next (row : Nat) (c : Char) (cs : List Char) : Context → Context × Nat
  | code =>
      if c = '#' then (code, (cs.takeWhile (· ≠ '\n')).length)
      else if isQuote c then
        if [c, c].isPrefixOf cs then (triple c row, 2) else (single c, 0)
      else (code, 0)
  | single q =>
      if c = q ∨ c = '\n' then (code, 0)
      else if c = '\\' ∧ cs.head? ≠ some '\n' then (single q, 1)
      else (single q, 0)
  | triple q opened =>
      if c = '\\' then (triple q opened, 1)
      else if [q, q, q].isPrefixOf (c :: cs) then (code, 2)
      else (triple q opened, 0)

/-- The row of the string literal with three quotes that a character stands in. -/
def openRow : Context → Option Nat
  | triple _ row => some row
  | _ => none

end Context

/-- What a scan of a text finds: its comments, and the row of a string literal with three
quotes that is open at the end. -/
structure TextScan where
  comments : List Token
  openRow : Option Nat
deriving DecidableEq, Repr

namespace TextScan

/-- The scan with more comments in front. -/
def prepend (comments : List Token) (s : TextScan) : TextScan :=
  { s with comments := comments ++ s.comments }

/-- The comments of a source, unless it ends in a string literal. -/
def result (s : TextScan) : Except UnclosedString (List Token) :=
  match s.openRow with
  | some row => .error ⟨row⟩
  | none => .ok s.comments

end TextScan

/-- Scans a text from the place `p` on, where `skip` more characters are passed over. -/
def scanText (context : Context) (skip : Nat) (p : Position) : List Char → TextScan
  | [] => ⟨[], context.openRow⟩
  | c :: cs =>
      match skip with
      | skip + 1 => scanText context skip (p.after c) cs
      | 0 =>
          let scan := scanText (context.next p.row c cs).1 (context.next p.row c cs).2
            (p.after c) cs
          if context = .code ∧ c = '#' then
            scan.prepend [.comment p.row p.col (String.ofList (lineRest (c :: cs)))]
          else scan

@[simp] theorem TextScan.prepend_nil (s : TextScan) : s.prepend [] = s := rfl

section Steps

variable (context : Context) (p : Position)

theorem scanText_skip (a cs : List Char) :
    scanText context a.length p (a ++ cs) = scanText context 0 (p.advance a) cs := by
  induction a generalizing p with
  | nil => rfl
  | cons c a ih => simp [scanText, ih]

theorem scanText_cons {c : Char} {cs : List Char} (hc : ¬ (context = .code ∧ c = '#')) :
    scanText context 0 p (c :: cs) =
      scanText (context.next p.row c cs).1 (context.next p.row c cs).2 (p.after c) cs := by
  simp [scanText, hc]

theorem scanText_hash (cs : List Char) :
    scanText .code 0 p ('#' :: cs) =
      (scanText .code (cs.takeWhile (· ≠ '\n')).length (p.after '#') cs).prepend
        [.comment p.row p.col (String.ofList (lineRest ('#' :: cs)))] := by
  rw [scanText]
  simp only [Context.next, if_true, and_self]

theorem scanText_code_plain {text : List Char} (cs : List Char)
    (htext : ∀ c ∈ text, IsPlain c) :
    scanText .code 0 p (text ++ cs) = scanText .code 0 (p.advance text) cs := by
  induction text generalizing p with
  | nil => rfl
  | cons c text ih =>
      have hc : IsPlain c := htext c (by simp)
      rw [List.cons_append, scanText_cons _ _ (by simp [hc.1])]
      simp only [Context.next, hc.1, hc.2, if_false, Bool.false_eq_true]
      exact ih _ fun d hd => htext d (by simp [hd])

end Steps

theorem ne_of_isQuote {q c : Char} (hq : isQuote q = true) (hc : isQuote c = false) : q ≠ c := by
  rintro rfl
  simp [hc] at hq

/-! ### Ends of lines -/

section LineEnds

variable {terminator rest : List Char} (p : Position)

theorem scanText_code_terminator (h : Line.EndsBefore ⟨[], terminator⟩ rest) :
    scanText .code 0 p (terminator ++ rest) = scanText .code 0 ⟨p.row + 1, 1⟩ rest := by
  have hplain : ∀ c ∈ terminator, IsPlain c := by
    intro c hc
    rcases h.terminator_cases with rfl | rfl | ⟨rfl, -⟩ | ⟨rfl, -⟩ <;>
      simp only [List.mem_cons, List.not_mem_nil, or_false] at hc
    · exact hc ▸ ⟨by decide, by decide⟩
    · rcases hc with rfl | rfl <;> exact ⟨by decide, by decide⟩
    · exact hc ▸ ⟨by decide, by decide⟩
  rw [scanText_code_plain p rest hplain]
  by_cases hfeed : '\n' ∈ terminator
  · rw [← p.advance_line h hfeed, List.nil_append]
  · rw [h.rest_eq_nil hfeed]
    rfl

theorem scanText_triple_terminator {q : Char} {row skip : Nat} (hq : isQuote q = true)
    (hskip : skip ≤ 1) (h : Line.EndsBefore ⟨[], terminator⟩ rest) :
    scanText (.triple q row) skip p (terminator ++ rest) =
      scanText (.triple q row) 0 ⟨p.row + 1, 1⟩ rest := by
  have hfeed : q ≠ '\n' := ne_of_isQuote hq (by decide)
  have hreturn : q ≠ '\r' := ne_of_isQuote hq (by decide)
  obtain rfl | rfl : skip = 0 ∨ skip = 1 := by omega
  · rcases h.terminator_cases with rfl | rfl | ⟨rfl, rfl⟩ | ⟨rfl, rfl⟩ <;>
      simp [scanText, Context.next, Position.after, hfeed, hreturn]
  · rcases h.terminator_cases with rfl | rfl | ⟨rfl, rfl⟩ | ⟨rfl, rfl⟩ <;>
      simp [scanText, Context.next, Position.after, hfeed]

theorem scanText_single_terminator {q : Char} (hq : isQuote q = true)
    (h : Line.EndsBefore ⟨[], terminator⟩ rest) :
    scanText (.single q) 0 p (terminator ++ rest) = scanText .code 0 ⟨p.row + 1, 1⟩ rest := by
  have hreturn : q ≠ '\r' := ne_of_isQuote hq (by decide)
  rcases h.terminator_cases with rfl | rfl | ⟨rfl, rfl⟩ | ⟨rfl, rfl⟩ <;>
    simp [scanText, Context.next, Position.after, Context.openRow, hreturn.symm]

/-- A backslash at the end of a line takes no character with it. -/
theorem scanText_single_backslash {q : Char} (hq : isQuote q = true)
    (h : Line.EndsBefore ⟨[], terminator⟩ rest) :
    scanText (.single q) 0 p ('\\' :: (terminator ++ rest)) =
      scanText .code 0 ⟨p.row + 1, 1⟩ rest := by
  have hslash : q ≠ '\\' := ne_of_isQuote hq (by decide)
  rcases h.terminator_cases with rfl | rfl | ⟨rfl, rfl⟩ | ⟨rfl, rfl⟩ <;>
    simp [scanText, Context.next, Position.after, Context.openRow, hslash.symm]

theorem isPrefixOf_replicate_append {q : Char} {tail : List Char} (n : Nat) (cs : List Char)
    (htail : tail.head? ≠ some q) :
    (List.replicate n q).isPrefixOf (cs ++ tail) = (stripCopies q n cs).isSome := by
  induction n generalizing cs with
  | zero => simp [stripCopies]
  | succ n ih =>
      cases cs with
      | nil =>
          cases tail with
          | nil => rfl
          | cons d tail =>
              have hd : q ≠ d := by
                rintro rfl
                exact htail rfl
              simp [List.replicate_succ, List.isPrefixOf, stripCopies, hd]
      | cons c cs =>
          by_cases hc : c = q
          · simp [List.replicate_succ, stripCopies, hc, ih]
          · simp [List.replicate_succ, List.isPrefixOf, stripCopies, hc, Ne.symm hc]

theorem head?_ne_of_isQuote {body : List Char} {q : Char} (hq : isQuote q = true)
    (h : Line.EndsBefore ⟨body, terminator⟩ rest) : (terminator ++ rest).head? ≠ some q := by
  rcases h.terminator_cases with rfl | rfl | ⟨rfl, rfl⟩ | ⟨rfl, rfl⟩ <;>
    simp <;> rintro rfl <;> simp [isQuote] at hq

end LineEnds

/-! ### String literals -/

section Literals

variable {q : Char} {row : Nat} (p : Position)

theorem scanText_code_single {cs tail : List Char} (hq : isQuote q = true)
    (hstrip : stripCopies q 2 cs = none) (htail : tail.head? ≠ some q) :
    scanText .code 0 p (q :: (cs ++ tail)) =
      scanText (.single q) 0 (p.after q) (cs ++ tail) := by
  have hhash : q ≠ '#' := ne_of_isQuote hq (by decide)
  have hone : [q, q].isPrefixOf (cs ++ tail) = false := by
    have hcopies := isPrefixOf_replicate_append 2 cs htail
    rwa [hstrip] at hcopies
  rw [scanText_cons _ _ (by simp [hhash])]
  simp [Context.next, hhash, hq, hone]

theorem scanText_code_triple (hq : isQuote q = true) (cs : List Char) :
    scanText .code 0 p (q :: q :: q :: cs) =
      scanText (.triple q p.row) 0 (p.advance [q, q, q]) cs := by
  have hhash : q ≠ '#' := ne_of_isQuote hq (by decide)
  simp [scanText, Context.next, hhash, hq]

theorem scanText_triple_escape (c : Char) (cs : List Char) :
    scanText (.triple q row) 0 p ('\\' :: c :: cs) =
      scanText (.triple q row) 0 (p.advance ['\\', c]) cs := by
  simp [scanText, Context.next]

theorem scanText_triple_close (hq : isQuote q = true) (cs : List Char) :
    scanText (.triple q row) 0 p ([q, q, q] ++ cs) =
      scanText .code 0 (p.advance [q, q, q]) cs := by
  have hslash : q ≠ '\\' := ne_of_isQuote hq (by decide)
  simp [scanText, Context.next, hslash]

theorem scanText_triple_inner {c : Char} {cs tail : List Char} (hc : c ≠ '\\')
    (hstrip : stripCopies q 3 (c :: cs) = none) (htail : tail.head? ≠ some q) :
    scanText (.triple q row) 0 p (c :: (cs ++ tail)) =
      scanText (.triple q row) 0 (p.after c) (cs ++ tail) := by
  have hopen : [q, q, q].isPrefixOf (c :: (cs ++ tail)) = false := by
    have hcopies := isPrefixOf_replicate_append 3 (c :: cs) htail
    rwa [hstrip] at hcopies
  rw [scanText_cons _ _ (by simp)]
  simp [Context.next, hc, hopen]

end Literals

end TodoLint
