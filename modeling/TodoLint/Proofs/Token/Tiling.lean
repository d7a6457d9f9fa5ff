import TodoLint.Proofs.Position
import TodoLint.Proofs.Token.Lexeme
import TodoLint.Proofs.Token.Stream

/-!
The tokens of a source cover it. `Tiles` puts tokens side by side on a text, with nothing but
white space and backslashes at ends of lines between them; the tokens of a line, and those of
all lines, tile what they were read from.
-/

namespace TodoLint

open Text

/-- A character that no token holds, before `after`: white space, or a backslash at the end of
its line. -/
def IsGap (c : Char) (after : List Char) : Prop :=
  isBlank c = true ∨ c = '\\' ∧ lineRest after = []

/-- A token that starts at a place. Unless it is a line break it holds text, and stops right
after it. -/
structure Token.StandsAt (t : Token) (p : Position) : Prop where
  start_eq : t.start = p
  text_ne_nil : ¬ t.IsBreak → t.text.toList ≠ []
  stop_eq : ¬ t.IsBreak → t.stop = p.advance t.text.toList

/-- `Tiles p cs ts q rest`: the tokens `ts` stand one after the other in the text `cs`, which
begins at `p`, up to its part `rest`, which begins at `q`. The end of the text ends its row,
perhaps with a line break that holds no text. -/
inductive Tiles : Position → List Char → List Token → Position → List Char → Prop
  | done {p : Position} {cs : List Char} : Tiles p cs [] p cs
  | gap {p q : Position} {c : Char} {cs rest : List Char} {ts : List Token}
      (hgap : IsGap c cs) (h : Tiles (p.after c) cs ts q rest) : Tiles p (c :: cs) ts q rest
  | token {p q : Position} {t : Token} {cs rest : List Char} {ts : List Token}
      (ht : t.StandsAt p) (hne : t.text.toList ≠ [])
      (h : Tiles (p.advance t.text.toList) cs ts q rest) :
      Tiles p (t.text.toList ++ cs) (t :: ts) q rest
  | emptyBreak {p q : Position} {t : Token} {rest : List Char} {ts : List Token}
      (ht : t.StandsAt p) (hempty : t.text.toList = [])
      (h : Tiles ⟨p.row + 1, 1⟩ [] ts q rest) : Tiles p [] (t :: ts) q rest
  | endText {p q : Position} {rest : List Char} {ts : List Token}
      (h : Tiles ⟨p.row + 1, 1⟩ [] ts q rest) : Tiles p [] ts q rest

theorem Tiles.append {p q r : Position} {cs middle rest : List Char} {ts us : List Token}
    (first : Tiles p cs ts q middle) (second : Tiles q middle us r rest) :
    Tiles p cs (ts ++ us) r rest := by
  induction first with
  | done => exact second
  | gap hgap _ ih => exact .gap hgap (ih second)
  | token ht hne _ ih => exact .token ht hne (ih second)
  | emptyBreak ht hempty _ ih => exact .emptyBreak ht hempty (ih second)
  | endText _ ih => exact .endText (ih second)

/-! ### The tokens of a line -/

section Line

variable {terminator rest : List Char} {row col : Nat}

theorem tiles_terminator (h : Line.EndsBefore ⟨[], terminator⟩ rest) :
    Tiles ⟨row, col⟩ (terminator ++ rest) [] ⟨row + 1, 1⟩ rest := by
  have hfeed : isBlank '\n' = true := by decide
  have hreturn : isBlank '\r' = true := by decide
  rcases h.terminator_cases with rfl | rfl | ⟨rfl, rfl⟩ | ⟨rfl, rfl⟩
  · exact .gap (.inl hfeed) .done
  · exact .gap (.inl hreturn) (.gap (.inl hfeed) .done)
  · exact .endText .done
  · exact .gap (.inl hreturn) (.endText .done)

theorem tiles_break {t : Token} (h : Line.EndsBefore ⟨[], terminator⟩ rest)
    (ht : t.StandsAt ⟨row, col⟩) (htext : t.text.toList = terminator) :
    Tiles ⟨row, col⟩ (terminator ++ rest) [t] ⟨row + 1, 1⟩ rest := by
  by_cases hnil : terminator = []
  · have hrest : rest = [] := h.rest_eq_nil (by simp [hnil])
    rw [hnil, hrest]
    exact .emptyBreak ht (htext.trans hnil) .done
  · have hne : t.text.toList ≠ [] := by rwa [htext]
    have hlast : Tiles (Position.advance ⟨row, col⟩ t.text.toList) rest [] ⟨row + 1, 1⟩ rest := by
      rw [htext]
      rcases h.terminator_cases with rfl | rfl | ⟨rfl, rfl⟩ | ⟨rfl, rfl⟩
      · exact .done
      · exact .done
      · exact absurd rfl hnil
      · exact .endText .done
    have htiles := Tiles.token ht hne hlast
    rwa [htext] at htiles

/-- What the tokens of a part of a line tile: the part up to its terminator, or up to a string
literal that is still open when the next row begins. -/
def LineScan.Covers (scan : LineScan) (row : Nat) (p : Position) (text : List Char)
    (stop : Position) (terminator rest : List Char) : Prop :=
  (scan.carry.pending = none ∧ Tiles p text scan.tokens stop (terminator ++ rest)) ∨
  (∃ opened, scan.carry.pending = some opened ∧ scan.joined = true ∧ opened.text ≠ [] ∧
    ('\n' ∈ terminator → opened.start.advance opened.text = ⟨row + 1, 1⟩) ∧
    Tiles p text scan.tokens opened.start (opened.text ++ rest))

theorem LineScan.Covers.step {scan : LineScan} {p p' stop : Position} {text text' : List Char}
    (front : List Token) (h : scan.Covers row p text stop terminator rest)
    (hfront : ∀ {q left ts}, Tiles p text ts q left → Tiles p' text' (front ++ ts) q left) :
    ({ scan with tokens := front ++ scan.tokens } : LineScan).Covers row p' text' stop
      terminator rest := by
  rcases h with ⟨hnone, htiles⟩ | ⟨opened, hsome, hjoined, hne, hfits, htiles⟩
  · exact .inl ⟨hnone, hfront htiles⟩
  · exact .inr ⟨opened, hsome, hjoined, hne, hfits, hfront htiles⟩

/-- A token within a row stops as many columns after its start as its text has characters. -/
theorem tiles_cons_of_notMem {kind : TokenKind} {cs text left : List Char} {q : Position}
    {ts : List Token} (hcs : '\n' ∉ cs) (hne : cs ≠ [])
    (h : Tiles ⟨row, col + cs.length⟩ text ts q left) :
    Tiles ⟨row, col⟩ (cs ++ text)
      (⟨kind, String.ofList cs, ⟨row, col⟩, ⟨row, col + cs.length⟩⟩ :: ts) q left := by
  let t : Token := ⟨kind, String.ofList cs, ⟨row, col⟩, ⟨row, col + cs.length⟩⟩
  have htext : t.text.toList = cs := String.toList_ofList
  have hstop : Position.advance ⟨row, col⟩ cs = ⟨row, col + cs.length⟩ :=
    Position.advance_of_notMem _ hcs
  have ht : t.StandsAt ⟨row, col⟩ := ⟨rfl, fun _ => htext ▸ hne, fun _ => by rw [htext, hstop]⟩
  have htiles := Tiles.token ht (htext ▸ hne) (by rwa [htext, hstop] : Tiles _ text ts q left)
  rwa [htext] at htiles

theorem covers_scanCode {carry : Carry} {cs : List Char} (hcarry : carry.pending = none)
    (h : Line.EndsBefore ⟨cs, terminator⟩ rest) :
    (scanCode row terminator col carry cs).Covers row ⟨row, col⟩ (cs ++ (terminator ++ rest))
      ⟨row, col + cs.length⟩ terminator rest := by
  fun_induction scanCode row terminator col carry cs with
  | case1 col carry => exact .inl ⟨hcarry, .done⟩
  | case2 col carry c cs hread ih =>
      have hgap : IsGap c (cs ++ (terminator ++ rest)) := .inl (Lexeme.isBlank_of_read hread)
      have hrest := ih hcarry h.tail
      rw [Nat.add_assoc, Nat.add_comm 1, ← Position.after_of_ne ⟨row, col⟩ h.head_ne] at hrest
      exact hrest.step [] (.gap hgap)
  | case3 col carry c cs hread =>
      have hlength : (String.ofList (c :: cs)).length = (c :: cs).length := String.length_ofList
      refine .inl ⟨hcarry, ?_⟩
      simp only [Token.comment, hlength]
      exact tiles_cons_of_notMem h.feed_notMem (List.cons_ne_nil c cs) .done
  | case4 col carry c cs hread =>
      obtain ⟨rfl, rfl⟩ := Lexeme.eq_backslash_of_read hread
      exact .inl ⟨hcarry, .gap (.inr ⟨rfl, h.tail.lineRest_eq⟩) .done⟩
  | case5 col carry c cs text after hread token next ih =>
      have hsplit := Lexeme.piece_append_rest hread
      rw [← hsplit] at h
      have hne := Lexeme.piece_ne_nil hread
      have hrest := ih hcarry h.of_append
      rw [← hsplit, List.append_assoc, List.length_append, ← Nat.add_assoc]
      exact hrest.step [token] (tiles_cons_of_notMem h.feed_notMem_front hne)
  | case6 col carry c cs quote hread opened =>
      refine .inr ⟨opened, rfl, rfl, by simp [opened], fun hfeed => ?_, ?_⟩
      · exact Position.advance_line ⟨row, col⟩ h hfeed
      · simp only [opened, List.append_assoc]
        exact .done

end Line

/-! ### The tokens of all lines -/

namespace Carry

/-- Where the text that no token holds yet begins, before the next row. -/
def place (row : Nat) (carry : Carry) : Position :=
  match carry.pending with
  | none => ⟨row, 1⟩
  | some opened => opened.start

/-- The text that was read and that no token holds yet. -/
def held (carry : Carry) : List Char :=
  match carry.pending with
  | none => []
  | some opened => opened.text

/-- An open string literal holds the text from its start up to the next row. -/
def Fits (row : Nat) (carry : Carry) : Prop :=
  ∀ opened, carry.pending = some opened →
    opened.text ≠ [] ∧ opened.start.advance opened.text = ⟨row, 1⟩

end Carry

section Lines

variable {row : Nat} {carry : Carry} {line : Line} {rest : List Char}

theorem covers_scanBody (hfits : carry.Fits row) (h : line.EndsBefore rest) :
    (scanBody row line carry).Covers row (carry.place row)
      (carry.held ++ (line.chars ++ rest)) ⟨row, line.body.length + 1⟩ line.terminator rest := by
  obtain ⟨body, terminator⟩ := line
  rw [Line.chars, List.append_assoc]
  unfold scanBody
  split
  · rename_i hpending
    have hcode := @covers_scanCode _ _ row 1 _ _ hpending h
    simpa only [Carry.place, Carry.held, hpending, List.nil_append, Nat.add_comm 1] using hcode
  · rename_i opened hpending
    obtain ⟨hne, hstart⟩ := hfits opened hpending
    simp only [Carry.place, Carry.held, hpending]
    split
    · rename_i part after hclose
      have hsplit := closeTriple_append hclose
      subst hsplit
      let token : Token :=
        ⟨.other, String.ofList (opened.text ++ part), opened.start, ⟨row, part.length + 1⟩⟩
      have htext : token.text.toList = opened.text ++ part := String.toList_ofList
      have hnonempty : token.text.toList ≠ [] := by simp [htext, hne]
      have hstop : opened.start.advance token.text.toList = ⟨row, part.length + 1⟩ := by
        rw [htext, Position.advance_append, hstart,
          Position.advance_of_notMem _ h.feed_notMem_front, Nat.add_comm 1]
      have ht : token.StandsAt opened.start := ⟨rfl, fun _ => hnonempty, fun _ => hstop.symm⟩
      have hfront : ∀ {q : Position} {text left : List Char} {ts : List Token},
          Tiles ⟨row, part.length + 1⟩ text ts q left →
            Tiles opened.start ((opened.text ++ part) ++ text) (token :: ts) q left := by
        intro q text left ts htiles
        rw [← hstop] at htiles
        have hcons := Tiles.token ht hnonempty htiles
        rwa [htext] at hcons
      have hcode := @covers_scanCode terminator rest row (part.length + 1)
        { carry with logicalOpen := true, pending := none } after rfl h.of_append
      have hlength : (part ++ after).length + 1 = part.length + 1 + after.length := by
        rw [List.length_append]
        omega
      rw [List.append_assoc, ← List.append_assoc, hlength]
      exact hcode.step [token] hfront
    · refine .inr ⟨_, rfl, rfl, by simp [hne], fun hfeed => ?_, ?_⟩
      · simp only [Line.chars, Position.advance_append, hstart]
        rw [← Position.advance_append]
        exact Position.advance_line ⟨row, 1⟩ h hfeed
      · simp only [Line.chars, List.append_assoc]
        exact .done

theorem standsAt_breakAfter (row : Nat) (line : Line) (carry : Carry) :
    (breakAfter row line carry).1.StandsAt ⟨row, line.body.length + 1⟩ where
  start_eq := rfl
  text_ne_nil := fun hnot => absurd (kind_breakAfter row line carry) hnot
  stop_eq := fun hnot => absurd (kind_breakAfter row line carry) hnot

/-- The tokens of a line tile it, and the text that an open string literal holds with it. -/
theorem tiles_scanLine (hfits : carry.Fits row) (h : line.EndsBefore rest) :
    Tiles (carry.place row) (carry.held ++ (line.chars ++ rest)) (scanLine row line carry).1
        ((scanLine row line carry).2.place (row + 1)) ((scanLine row line carry).2.held ++ rest) ∧
      ('\n' ∈ line.terminator → (scanLine row line carry).2.Fits (row + 1)) := by
  have hterminator : Line.EndsBefore ⟨[], line.terminator⟩ rest := h.without_body
  rcases covers_scanBody hfits h with
    ⟨hnone, htiles⟩ | ⟨opened, hsome, hjoined, hne, hstart, htiles⟩
  · cases hjoined : (scanBody row line carry).joined with
    | true =>
        have hline := htiles.append (tiles_terminator hterminator)
        rw [scanLine_of_joined hjoined]
        refine ⟨?_, fun _ opened hopened => ?_⟩
        · simpa only [Carry.place, Carry.held, hnone, List.append_nil, List.nil_append] using hline
        · simp [hnone] at hopened
    | false =>
        have hbreak := standsAt_breakAfter row line (scanBody row line carry).carry
        have hline := htiles.append (tiles_break hterminator hbreak String.toList_ofList)
        have hpending :
            (breakAfter row line (scanBody row line carry).carry).2.pending = none := hnone
        rw [scanLine_of_not_joined hjoined]
        refine ⟨?_, fun _ opened hopened => ?_⟩
        · simpa only [Carry.place, Carry.held, hpending, List.nil_append] using hline
        · simp [hpending] at hopened
  · rw [scanLine_of_joined hjoined]
    refine ⟨?_, fun hfeed opened' hopened => ?_⟩
    · simpa only [Carry.place, Carry.held, hsome] using htiles
    · obtain rfl : opened = opened' := by simpa [hsome] using hopened
      exact ⟨hne, hstart hfeed⟩

/-- The tokens of all lines tile their text, and what is held before and after. -/
theorem tiles_scanLines {text : List Char} {lines : List Line} (h : Line.Splits text lines)
    (hfits : text ≠ [] → carry.Fits row) :
    Tiles (carry.place row) (carry.held ++ text) (scanLines row carry lines).1
      ((scanLines row carry lines).2.place (row + lines.length))
      (scanLines row carry lines).2.held := by
  induction h generalizing row carry with
  | nil =>
      rw [List.append_nil]
      exact .done
  | @cons line rest lines hne hends hrest ih =>
      have htext : line.chars ++ rest ≠ [] := by simp [hne]
      obtain ⟨hline, hnext⟩ := tiles_scanLine (hfits htext) hends
      -- a literal that does not reach the next row is open at the end of the text
      have hlines := @ih (row + 1) (scanLine row line carry).2 fun hne => by
        by_contra hnot
        exact hne (hends.rest_eq_nil fun hfeed => hnot (hnext hfeed))
      rw [List.length_cons, Nat.add_comm lines.length, ← Nat.add_assoc]
      exact hline.append hlines

end Lines

end TodoLint
