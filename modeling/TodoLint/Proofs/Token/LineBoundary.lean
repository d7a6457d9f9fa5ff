import Mathlib.Data.List.Forall2
import TodoLint.Proofs.Text.Lines
import TodoLint.Proofs.Token.Stream

/-!
Sources cut at a line boundary. The rows of a part count from its first line, and of all that the
lines before it leave behind only an open string literal decides on its tokens; brackets and open
logical lines decide on the kinds of its line breaks alone (`tokenize_append`).
-/

namespace TodoLint

open Text

/-! ### Rows -/

def Position.down (n : Nat) (p : Position) : Position :=
  ⟨p.row + n, p.col⟩

namespace Token

/-- The token `n` rows further down. -/
def down (n : Nat) (t : Token) : Token :=
  { t with start := t.start.down n, stop := t.stop.down n }

end Token

def OpenString.down (n : Nat) (opened : OpenString) : OpenString :=
  { opened with start := opened.start.down n }

def Carry.down (n : Nat) (carry : Carry) : Carry :=
  { carry with pending := carry.pending.map (OpenString.down n) }

def LineScan.down (n : Nat) (scan : LineScan) : LineScan :=
  ⟨scan.tokens.map (Token.down n), scan.carry.down n, scan.joined⟩

section Rows

variable (n row : Nat)

theorem scanCode_down (col : Nat) (terminator : List Char) (carry : Carry) (cs : List Char) :
    scanCode (row + n) terminator col (carry.down n) cs =
      (scanCode row terminator col carry cs).down n := by
  fun_induction scanCode row terminator col carry cs with
  | case1 col carry => exact scanCode_nil
  | case2 col carry c cs hread ih => rw [scanCode_of_blank hread, ih]
  | case3 col carry c cs hread => exact scanCode_of_comment hread
  | case4 col carry c cs hread => exact scanCode_of_continuation hread
  | case5 col carry c cs text after hread token next ih =>
      rw [scanCode_of_piece hread]
      have hnext : scanCode (row + n) terminator (col + text.length)
          { carry.down n with depth := depthAfter carry.depth text, logicalOpen := true } after =
            next.down n := ih
      simp only [Carry.down] at hnext ⊢
      rw [hnext]
      rfl
  | case6 col carry c cs quote hread opened => exact scanCode_of_unclosed hread

theorem scanBody_down (line : Line) (carry : Carry) :
    scanBody (row + n) line (carry.down n) = (scanBody row line carry).down n := by
  cases hpending : carry.pending with
  | none =>
      have hdown : (carry.down n).pending = none := by simp [Carry.down, hpending]
      rw [scanBody_of_none hpending, scanBody_of_none hdown, scanCode_down]
  | some opened =>
      have hdown : (carry.down n).pending = some (opened.down n) := by
        simp [Carry.down, hpending]
      cases hclose : closeTriple opened.quote line.body with
      | none =>
          rw [scanBody_of_open hpending hclose, scanBody_of_open hdown hclose]
          rfl
      | some found =>
          obtain ⟨part, after⟩ := found
          have hcode := scanCode_down n row (part.length + 1) line.terminator
            { carry with logicalOpen := true, pending := none } after
          rw [scanBody_of_closed hpending hclose, scanBody_of_closed hdown hclose]
          simp only [Carry.down, Option.map_none] at hcode ⊢
          rw [hcode]
          rfl

theorem scanLine_down (line : Line) (carry : Carry) :
    scanLine (row + n) line (carry.down n) =
      ((scanLine row line carry).1.map (Token.down n), (scanLine row line carry).2.down n) := by
  have hbody := scanBody_down n row line carry
  cases hjoined : (scanBody row line carry).joined with
  | true =>
      have hdown : (scanBody (row + n) line (carry.down n)).joined = true := by rwa [hbody]
      rw [scanLine_of_joined hjoined, scanLine_of_joined hdown, hbody]
      rfl
  | false =>
      have hdown : (scanBody (row + n) line (carry.down n)).joined = false := by rwa [hbody]
      rw [scanLine_of_not_joined hjoined, scanLine_of_not_joined hdown, hbody, List.map_append]
      rfl

/-- Lines that stand further down have the same tokens further down. -/
theorem scanLines_down (carry : Carry) (lines : List Line) :
    scanLines (row + n) (carry.down n) lines =
      ((scanLines row carry lines).1.map (Token.down n), (scanLines row carry lines).2.down n) := by
  induction lines generalizing row carry with
  | nil => rfl
  | cons line lines ih =>
      have hrow : row + n + 1 = row + 1 + n := by omega
      rw [scanLines_cons, scanLine_down, hrow, ih, scanLines_cons, List.map_append]

end Rows

/-! ### What a line takes over -/

/-- The same token, but for the kind of a line break. -/
structure Token.Alike (t u : Token) : Prop where
  text_eq : t.text = u.text
  start_eq : t.start = u.start
  stop_eq : t.stop = u.stop
  kind_eq : t.kind = u.kind ∨ t.IsBreak ∧ u.IsBreak

theorem Token.Alike.refl (t : Token) : t.Alike t :=
  ⟨rfl, rfl, rfl, .inl rfl⟩

/-- The same scan, but for brackets and open logical lines. -/
structure LineScan.Alike (s t : LineScan) : Prop where
  tokens_eq : s.tokens = t.tokens
  pending_eq : s.carry.pending = t.carry.pending
  joined_eq : s.joined = t.joined

section Carries

variable {row : Nat} {a b : Carry}

theorem alike_scanCode {col : Nat} {terminator : List Char} (cs : List Char) :
    ∀ b : Carry, a.pending = b.pending →
      (scanCode row terminator col a cs).Alike (scanCode row terminator col b cs) := by
  fun_induction scanCode row terminator col a cs with
  | case1 col a =>
      intro b h
      rw [scanCode_nil]
      exact ⟨rfl, h, rfl⟩
  | case2 col a c cs hread ih =>
      intro b h
      rw [scanCode_of_blank hread]
      exact ih b h
  | case3 col a c cs hread =>
      intro b h
      rw [scanCode_of_comment hread]
      exact ⟨rfl, h, rfl⟩
  | case4 col a c cs hread =>
      intro b h
      rw [scanCode_of_continuation hread]
      exact ⟨rfl, h, rfl⟩
  | case5 col a c cs text after hread token next ih =>
      intro b h
      obtain ⟨htokens, hpending, hjoined⟩ :=
        ih { b with depth := depthAfter b.depth text, logicalOpen := true } h
      rw [scanCode_of_piece hread]
      exact ⟨congrArg (token :: ·) htokens, hpending, hjoined⟩
  | case6 col a c cs quote hread opened =>
      intro b h
      rw [scanCode_of_unclosed hread]
      exact ⟨rfl, rfl, rfl⟩

theorem alike_scanBody (line : Line) (h : a.pending = b.pending) :
    (scanBody row line a).Alike (scanBody row line b) := by
  cases ha : a.pending with
  | none =>
      rw [scanBody_of_none ha, scanBody_of_none (h ▸ ha)]
      exact alike_scanCode _ b h
  | some opened =>
      have hb : b.pending = some opened := h ▸ ha
      cases hclose : closeTriple opened.quote line.body with
      | none =>
          rw [scanBody_of_open ha hclose, scanBody_of_open hb hclose]
          exact ⟨rfl, rfl, rfl⟩
      | some found =>
          obtain ⟨part, after⟩ := found
          rw [scanBody_of_closed ha hclose, scanBody_of_closed hb hclose]
          obtain ⟨htokens, hpending, hjoined⟩ :=
            @alike_scanCode row { a with logicalOpen := true, pending := none } (part.length + 1)
              line.terminator after { b with logicalOpen := true, pending := none } rfl
          exact ⟨congrArg (_ :: ·) htokens, hpending, hjoined⟩

theorem alike_breakAfter (line : Line) (a b : Carry) :
    (breakAfter row line a).1.Alike (breakAfter row line b).1 :=
  ⟨rfl, rfl, rfl, .inr ⟨kind_breakAfter row line a, kind_breakAfter row line b⟩⟩

theorem forall₂_alike_refl (ts : List Token) : List.Forall₂ Token.Alike ts ts :=
  List.forall₂_same.mpr fun t _ => Token.Alike.refl t

theorem alike_scanLine (line : Line) (h : a.pending = b.pending) :
    List.Forall₂ Token.Alike (scanLine row line a).1 (scanLine row line b).1 ∧
      (scanLine row line a).2.pending = (scanLine row line b).2.pending := by
  obtain ⟨htokens, hpending, hjoined⟩ := @alike_scanBody row a b line h
  cases hb : (scanBody row line b).joined with
  | true =>
      rw [scanLine_of_joined hb, scanLine_of_joined (hjoined.trans hb), htokens]
      exact ⟨forall₂_alike_refl _, hpending⟩
  | false =>
      rw [scanLine_of_not_joined hb, scanLine_of_not_joined (hjoined.trans hb), htokens]
      refine ⟨List.rel_append (forall₂_alike_refl _) ?_, hpending⟩
      exact .cons (alike_breakAfter line _ _) .nil

theorem alike_scanLines (lines : List Line) (h : a.pending = b.pending) :
    List.Forall₂ Token.Alike (scanLines row a lines).1 (scanLines row b lines).1 ∧
      (scanLines row a lines).2.pending = (scanLines row b lines).2.pending := by
  induction lines generalizing row a b with
  | nil => exact ⟨.nil, h⟩
  | cons line lines ih =>
      obtain ⟨hline, hnext⟩ := @alike_scanLine row a b line h
      obtain ⟨hlines, hlast⟩ := @ih (row + 1) _ _ hnext
      rw [scanLines_cons, scanLines_cons]
      exact ⟨List.rel_append hline hlines, hlast⟩

end Carries

/-! ### Sources -/

/-- The number of lines of a source. -/
def rowCount (source : String) : Nat :=
  (Line.split source.toList).length

/-- What a source leaves to a text right after it. -/
def carryAfter (source : String) : Carry :=
  (scanLines 1 {} (Line.split source.toList)).2

/-- A source after which another text begins a line of its own. -/
def EndsLine (source : String) : Prop :=
  source = "" ∨ source.toList.getLast? = some '\n'

section Sources

variable {a : String} {ta : List Token}

theorem split_append_source (ha : EndsLine a) (b : String) :
    Line.split (a ++ b).toList = Line.split a.toList ++ Line.split b.toList := by
  rw [String.toList_append]
  apply Line.split_append
  rcases ha with rfl | hlast
  · exact .inl rfl
  · exact .inr hlast

theorem rowCount_append (ha : EndsLine a) (b : String) :
    rowCount (a ++ b) = rowCount a + rowCount b := by
  rw [rowCount, split_append_source ha, List.length_append]
  rfl

theorem scanLines_append_source (ha : EndsLine a) (b : String) :
    scanLines 1 {} (Line.split (a ++ b).toList) =
      ((scanLines 1 {} (Line.split a.toList)).1 ++
          (scanLines (1 + rowCount a) (carryAfter a) (Line.split b.toList)).1,
        (scanLines (1 + rowCount a) (carryAfter a) (Line.split b.toList)).2) := by
  rw [split_append_source ha, scanLines_append]
  rfl

theorem pending_carryAfter (h : tokenize a = .ok ta) : (carryAfter a).pending = none :=
  (tokenize_eq_ok_iff.mp h).1

/-- The lines after a source that has tokens have the same tokens as on their own, further down
and but for the kinds of line breaks. -/
theorem alike_lines_after (h : tokenize a = .ok ta) (lines : List Line) :
    List.Forall₂ Token.Alike (scanLines (1 + rowCount a) (carryAfter a) lines).1
        ((scanLines 1 {} lines).1.map (Token.down (rowCount a))) ∧
      (scanLines (1 + rowCount a) (carryAfter a) lines).2.pending =
        (scanLines 1 {} lines).2.pending.map (OpenString.down (rowCount a)) := by
  have halike := @alike_scanLines (1 + rowCount a) (carryAfter a) {} lines (pending_carryAfter h)
  have hdown := scanLines_down (rowCount a) 1 {} lines
  rw [show Carry.down (rowCount a) {} = {} from rfl] at hdown
  rwa [hdown] at halike

theorem lines_after_eq (h : tokenize a = .ok ta) (hdepth : (carryAfter a).depth = 0)
    (hopen : (carryAfter a).logicalOpen = false) (lines : List Line) :
    (scanLines (1 + rowCount a) (carryAfter a) lines).1 =
      (scanLines 1 {} lines).1.map (Token.down (rowCount a)) := by
  have hcarry : carryAfter a = Carry.down (rowCount a) {} := by
    have hpending := pending_carryAfter h
    cases hafter : carryAfter a
    simp_all [Carry.down]
  rw [hcarry, scanLines_down]

theorem endMark_down (m n : Nat) : endMark (n + m) = (endMark m).down n := by
  simp [endMark, Token.down, Position.down, Nat.add_comm n, Nat.add_right_comm]

theorem tokenize_append_of_ok (ha : EndsLine a) (h : tokenize a = .ok ta) {b : String}
    {tb : List Token} (hb : tokenize b = .ok tb) :
    ∃ rest, tokenize (a ++ b) = .ok (ta.dropLast ++ rest) ∧
      List.Forall₂ Token.Alike rest (tb.map (Token.down (rowCount a))) ∧
      ((carryAfter a).depth = 0 → (carryAfter a).logicalOpen = false →
        rest = tb.map (Token.down (rowCount a))) := by
  obtain ⟨hpending, rfl⟩ := tokenize_eq_ok_iff.mp hb
  obtain ⟨halike, hlast⟩ := alike_lines_after h (Line.split b.toList)
  have hmark : endMark (rowCount (a ++ b)) = (endMark (rowCount b)).down (rowCount a) := by
    rw [rowCount_append ha, endMark_down]
  refine ⟨(scanLines (1 + rowCount a) (carryAfter a) (Line.split b.toList)).1 ++
    [endMark (rowCount (a ++ b))], ?_, ?_, fun hdepth hopen => ?_⟩
  · obtain ⟨-, rfl⟩ := tokenize_eq_ok_iff.mp h
    rw [tokenize_eq_ok_iff, scanLines_append_source ha, List.dropLast_concat, List.append_assoc]
    refine ⟨?_, rfl⟩
    rw [hlast, hpending, Option.map_none]
  · rw [List.map_append, List.map_singleton, hmark]
    exact List.rel_append halike (forall₂_alike_refl _)
  · rw [lines_after_eq h hdepth hopen, List.map_append, List.map_singleton, hmark]
    rfl

theorem tokenize_append_of_error (ha : EndsLine a) (h : tokenize a = .ok ta) {b : String}
    {fault : UnclosedString} (hb : tokenize b = .error fault) :
    tokenize (a ++ b) = .error ⟨fault.row + rowCount a⟩ := by
  obtain ⟨opened, hpending, rfl⟩ := tokenize_eq_error_iff.mp hb
  obtain ⟨-, hlast⟩ := alike_lines_after h (Line.split b.toList)
  rw [hpending, Option.map_some] at hlast
  rw [tokenize_eq_error_iff, scanLines_append_source ha]
  exact ⟨_, hlast, rfl⟩

/-- The tokens of a source that is cut at a line boundary are those of its parts, the second part
moved down by the rows of the first; only the kinds of line breaks may change, and they do not
where the first part leaves no bracket and no logical line open. -/
theorem tokenize_append (ha : EndsLine a) (h : tokenize a = .ok ta) (b : String) :
    ((∃ tokens, tokenize (a ++ b) = .ok tokens) ↔ ∃ tb, tokenize b = .ok tb) ∧
    (∀ tb, tokenize b = .ok tb →
      ∃ rest, tokenize (a ++ b) = .ok (ta.dropLast ++ rest) ∧
        List.Forall₂ Token.Alike rest (tb.map (Token.down (rowCount a))) ∧
        ((carryAfter a).depth = 0 → (carryAfter a).logicalOpen = false →
          rest = tb.map (Token.down (rowCount a)))) ∧
    (∀ fault, tokenize b = .error fault →
      tokenize (a ++ b) = .error ⟨fault.row + rowCount a⟩) := by
  refine ⟨⟨?_, ?_⟩, ?_, ?_⟩
  · rintro ⟨tokens, htokens⟩
    cases hb : tokenize b with
    | ok tb => exact ⟨tb, rfl⟩
    | error fault =>
        rw [tokenize_append_of_error ha h hb] at htokens
        cases htokens
  · rintro ⟨tb, hb⟩
    obtain ⟨rest, hrest, -⟩ := tokenize_append_of_ok ha h hb
    exact ⟨_, hrest⟩
  · intro tb hb
    exact tokenize_append_of_ok ha h hb
  · intro fault hb
    exact tokenize_append_of_error ha h hb

end Sources

/-- A bracket that the first part leaves open, before a line of code and before a string literal
that nothing closes. -/
theorem tokenize_append_call :
    EndsLine "f(\n" ∧ ∃ ta tb rest, tokenize "f(\n" = .ok ta ∧ tokenize "x\n" = .ok tb ∧
      tokenize ("f(\n" ++ "x\n") = .ok (ta.dropLast ++ rest) ∧
      List.Forall₂ Token.Alike rest (tb.map (Token.down 1)) ∧
      tokenize "\n'''" = .error ⟨2⟩ ∧ tokenize ("f(\n" ++ "\n'''") = .error ⟨3⟩ := by
  have ha : EndsLine "f(\n" := .inr (by decide)
  have hta := tokenize_eq_ok_iff.mpr
    (⟨by decide +kernel, rfl⟩ : (carryAfter "f(\n").pending = none ∧ _ = _)
  have htb := tokenize_eq_ok_iff.mpr
    (⟨by decide +kernel, rfl⟩ : (carryAfter "x\n").pending = none ∧ _ = _)
  have hopen : tokenize "\n'''" = .error ⟨2⟩ :=
    tokenize_eq_error_iff.mpr ⟨⟨'\'', ⟨2, 1⟩, "'''".toList⟩, by decide +kernel, rfl⟩
  obtain ⟨rest, hrest, halike, -⟩ := (tokenize_append ha hta "x\n").2.1 _ htb
  have herror := (tokenize_append ha hta "\n'''").2.2 _ hopen
  exact ⟨ha, _, _, rest, hta, htb, hrest, halike, hopen, herror⟩

end TodoLint
