import TodoLint.Proofs.Token.Context
import TodoLint.Proofs.Token.Stream

/-!
The scan by characters and the reading by lines agree: on a string literal, on a lexeme, on the
code of a line, on a line, and on all lines of a source.
-/

namespace TodoLint

open Text

variable {terminator rest : List Char}

/-! ### String literals -/

theorem scanText_closeSingle {q : Char} {cs : List Char} (p : Position)
    (hq : isQuote q = true) (h : Line.EndsBefore ⟨cs, terminator⟩ rest) :
    scanText (.single q) 0 p (cs ++ (terminator ++ rest)) =
      scanText .code 0 (p.advance (closeSingle q cs).1)
        ((closeSingle q cs).2 ++ (terminator ++ rest)) := by
  have hslash : q ≠ '\\' := ne_of_isQuote hq (by decide)
  fun_induction closeSingle q cs generalizing p with
  | case1 =>
      rw [List.nil_append, scanText_single_terminator p hq h]
      exact (scanText_code_terminator p h).symm
  | case2 c cs inner after hclose ih =>
      have htail := h.tail.tail
      rw [hclose] at ih
      rw [List.cons_append, scanText_cons _ _ (by simp)]
      simp only [Context.next, hslash.symm, List.cons_append, List.head?_cons, Option.some.injEq,
        h.tail.head_ne, ne_eq, not_false_eq_true, and_self, if_true]
      exact ih _ htail
  | case3 cs hne =>
      rw [List.cons_append, scanText_cons _ _ (by simp)]
      simp [Context.next]
  | case4 c cs hne hc inner after hclose ih =>
      -- a backslash at the end of its line escapes nothing
      have htail := h.tail
      by_cases hc' : c = '\\'
      · subst hc'
        have hnil : cs = [] := eq_nil_of_no_escape rfl hne
        subst hnil
        simp only [closeSingle, Prod.mk.injEq] at hclose
        obtain ⟨rfl, rfl⟩ := hclose
        change scanText (.single q) 0 p ('\\' :: (terminator ++ rest)) =
          scanText .code 0 (p.after '\\') (terminator ++ rest)
        rw [scanText_single_backslash p hq htail, scanText_code_terminator _ htail]
        rfl
      · rw [hclose] at ih
        rw [List.cons_append, scanText_cons _ _ (by simp)]
        simp only [Context.next, hc, h.head_ne, or_self, if_false, hc', false_and]
        exact ih _ htail

theorem scanText_closeTriple {q : Char} {row : Nat} {cs body after tail : List Char}
    (p : Position) (hq : isQuote q = true) (htail : tail.head? ≠ some q)
    (hclose : closeTriple q cs = some (body, after)) :
    scanText (.triple q row) 0 p (cs ++ tail) =
      scanText .code 0 (p.advance body) (after ++ tail) := by
  fun_induction closeTriple q cs generalizing p body after with
  | case1 => simp at hclose
  | case2 c cs ih =>
      simp only [Option.map_eq_some_iff, Prod.exists, Prod.mk.injEq] at hclose
      obtain ⟨inner, after, hinner, rfl, rfl⟩ := hclose
      rw [List.cons_append, List.cons_append, scanText_triple_escape]
      exact ih _ hinner
  | case3 c cs hne after' hstrip =>
      simp only [Option.some.injEq, Prod.mk.injEq] at hclose
      obtain ⟨rfl, rfl⟩ := hclose
      have hcs : c :: cs = [q, q, q] ++ after' := eq_of_stripCopies hstrip
      rw [hcs, List.append_assoc, scanText_triple_close p hq]
  | case4 c cs hne hstrip ih =>
      simp only [Option.map_eq_some_iff, Prod.exists, Prod.mk.injEq] at hclose
      obtain ⟨inner, after, hinner, rfl, rfl⟩ := hclose
      have hc : c ≠ '\\' := by
        intro hc
        rw [eq_nil_of_no_escape hc hne] at hinner
        simp [closeTriple] at hinner
      rw [List.cons_append, scanText_triple_inner p hc hstrip htail]
      exact ih _ hinner

theorem scanText_closeTriple_eq_none {q : Char} {row : Nat} {cs : List Char} (p : Position)
    (hq : isQuote q = true) (h : Line.EndsBefore ⟨cs, terminator⟩ rest)
    (hclose : closeTriple q cs = none) :
    scanText (.triple q row) 0 p (cs ++ (terminator ++ rest)) =
      scanText (.triple q row) 0 ⟨p.row + 1, 1⟩ rest := by
  fun_induction closeTriple q cs generalizing p with
  | case1 => exact scanText_triple_terminator p hq (Nat.zero_le 1) h
  | case2 c cs ih =>
      have hrow : (p.advance ['\\', c]).row = p.row := by
        rw [p.advance_of_notMem (by simpa using h.tail.head_ne.symm)]
      rw [List.cons_append, List.cons_append, scanText_triple_escape,
        ih _ h.tail.tail (by simpa using hclose), hrow]
  | case3 c cs hne after' hstrip => simp at hclose
  | case4 c cs hne hstrip ih =>
      by_cases hc : c = '\\'
      · have hnil := eq_nil_of_no_escape hc hne
        subst hc hnil
        rw [List.cons_append, List.nil_append, scanText_cons _ _ (by simp)]
        exact scanText_triple_terminator (p.after '\\') hq (Nat.le_refl 1) h.tail
      · have hrow : (p.after c).row = p.row := by rw [p.after_of_ne h.head_ne]
        rw [List.cons_append, scanText_triple_inner p hc hstrip (head?_ne_of_isQuote hq h),
          ih _ h.tail (by simpa using hclose), hrow]

/-! ### Lexemes -/

theorem scanText_piece {cs text after : List Char} (p : Position)
    (h : Line.EndsBefore ⟨cs, terminator⟩ rest) (hreads : Lexeme.Reads cs (.piece text after)) :
    scanText .code 0 p (cs ++ (terminator ++ rest)) =
      scanText .code 0 (p.advance text) (after ++ (terminator ++ rest)) := by
  cases hreads with
  | plain hne htext =>
      rw [List.append_assoc, scanText_code_plain p _ htext]
  | @single word cs body after q hword hq hone hclose =>
      have hcs : Line.EndsBefore ⟨cs, terminator⟩ rest := h.of_append.tail
      have hinner := scanText_closeSingle ((p.advance word).after q) hq hcs
      rw [hclose] at hinner
      rw [List.append_assoc, scanText_code_plain p _ hword, List.cons_append,
        scanText_code_single _ hq hone (head?_ne_of_isQuote hq h), hinner]
      simp only [Position.advance_append, Position.advance_cons]
  | @triple word cs body after q hword hq hclose =>
      have hinner := @scanText_closeTriple q (p.advance word).row _ _ _ _
        ((p.advance word).advance [q, q, q]) hq (head?_ne_of_isQuote hq h) hclose
      rw [List.append_assoc, scanText_code_plain p _ hword]
      simp only [List.cons_append]
      rw [scanText_code_triple _ hq, hinner]
      simp only [Position.advance_append, Position.advance_cons, Position.advance_nil]

theorem isQuote_of_reads_unclosed {cs : List Char} {q : Char}
    (hreads : Lexeme.Reads cs (.unclosed q)) : isQuote q = true := by
  cases hreads with
  | unclosed hword hq hopen => exact hq

theorem scanText_unclosed {cs : List Char} {q : Char} (p : Position)
    (h : Line.EndsBefore ⟨cs, terminator⟩ rest) (hreads : Lexeme.Reads cs (.unclosed q)) :
    scanText .code 0 p (cs ++ (terminator ++ rest)) =
      scanText (.triple q p.row) 0 ⟨p.row + 1, 1⟩ rest := by
  cases hreads with
  | @unclosed word cs q hword hq hopen =>
      have hcs : Line.EndsBefore ⟨cs, terminator⟩ rest := h.of_append.tail.tail.tail
      have hrow : (p.advance word).row = p.row := by
        rw [p.advance_of_notMem h.feed_notMem_front]
      have hquotes : '\n' ∉ [q, q, q] := by
        simpa using (h.of_append.head_ne).symm
      have hinner := @scanText_closeTriple_eq_none _ _ q p.row _
        ((p.advance word).advance [q, q, q]) hq hcs hopen
      rw [List.append_assoc, scanText_code_plain p _ hword]
      simp only [List.cons_append]
      rw [scanText_code_triple _ hq, hrow, hinner, Position.advance_of_notMem _ hquotes, hrow]

theorem scanText_code_line {cs : List Char} (p : Position)
    (h : Line.EndsBefore ⟨cs, terminator⟩ rest) :
    scanText .code ((cs ++ (terminator ++ rest)).takeWhile (· ≠ '\n')).length p
        (cs ++ (terminator ++ rest)) =
      scanText .code 0 ⟨p.row + 1, 1⟩ rest := by
  let line := (cs ++ (terminator ++ rest)).takeWhile (· ≠ '\n')
  have hsplit : line ++ (if '\n' ∈ terminator then '\n' :: rest else []) =
      cs ++ (terminator ++ rest) := by
    rw [← h.dropWhile_ne_feed]
    exact List.takeWhile_append_dropWhile
  have hrow : (p.advance line).row = p.row := by
    have hfree : '\n' ∉ line := fun hmem => by simpa using List.mem_takeWhile_imp hmem
    rw [p.advance_of_notMem hfree]
  change scanText .code line.length p _ = _
  rw [← hsplit, scanText_skip]
  split
  · rw [scanText_cons _ _ (by simp)]
    simp [Context.next, isQuote, Position.after, hrow]
  · rename_i hfeed
    rw [h.rest_eq_nil hfeed]
    rfl

theorem scanText_comment {cs : List Char} (p : Position)
    (h : Line.EndsBefore ⟨'#' :: cs, terminator⟩ rest) :
    scanText .code 0 p ('#' :: (cs ++ (terminator ++ rest))) =
      (scanText .code 0 ⟨p.row + 1, 1⟩ rest).prepend
        [.comment p.row p.col (String.ofList ('#' :: cs))] := by
  have hline : lineRest ('#' :: (cs ++ (terminator ++ rest))) = '#' :: cs := h.lineRest_eq
  have hskip := scanText_code_line (p.after '#') h.tail
  rw [p.after_of_ne h.head_ne] at hskip
  rw [scanText_hash, hline, p.after_of_ne h.head_ne, hskip]

/-! ### Lines -/

/-- The context that the next line begins in. -/
def Carry.context (carry : Carry) : Context :=
  match carry.pending with
  | none => .code
  | some opened => .triple opened.quote opened.start.row

theorem scanText_scanCode (row col : Nat) (carry : Carry) {cs : List Char}
    (hcarry : carry.pending = none) (h : Line.EndsBefore ⟨cs, terminator⟩ rest) :
    scanText .code 0 ⟨row, col⟩ (cs ++ (terminator ++ rest)) =
      (scanText (scanCode row terminator col carry cs).carry.context 0 ⟨row + 1, 1⟩ rest).prepend
        ((scanCode row terminator col carry cs).tokens.filter Token.isComment) := by
  fun_induction scanCode row terminator col carry cs with
  | case1 col carry =>
      simp only [Carry.context, hcarry]
      exact scanText_code_terminator _ h
  | case2 col carry c cs hread ih =>
      have hplain := isPlain_of_isBlank (Lexeme.isBlank_of_read hread)
      have hstep := scanText_code_plain ⟨row, col⟩ (cs ++ (terminator ++ rest))
        (fun d hd => List.mem_singleton.mp hd ▸ hplain : ∀ d ∈ [c], IsPlain d)
      rw [List.singleton_append, Position.advance_cons, Position.after_of_ne _ h.head_ne] at hstep
      rw [List.cons_append, hstep]
      exact ih hcarry h.tail
  | case3 col carry c cs hread =>
      obtain rfl := Lexeme.eq_hash_of_read hread
      simp only [Carry.context, hcarry]
      exact scanText_comment ⟨row, col⟩ h
  | case4 col carry c cs hread =>
      obtain ⟨rfl, rfl⟩ := Lexeme.eq_backslash_of_read hread
      have hplain : ∀ d ∈ ['\\'], IsPlain d := by
        intro d hd
        exact List.mem_singleton.mp hd ▸ ⟨by decide, by decide⟩
      simp only [Carry.context, hcarry]
      rw [scanText_code_plain _ _ hplain]
      exact scanText_code_terminator ⟨row, col + 1⟩ h.tail
  | case5 col carry c cs text after hread token next ih =>
      have hpiece := Lexeme.reads_read c cs
      rw [hread] at hpiece
      have hends := h
      rw [← Lexeme.piece_append_rest hread] at hends
      rw [scanText_piece _ h hpiece, Position.advance_of_notMem _ hends.feed_notMem_front,
        ih hcarry hends.of_append]
      rfl
  | case6 col carry c cs quote hread opened =>
      have hunclosed := Lexeme.reads_read c cs
      rw [hread] at hunclosed
      exact scanText_unclosed ⟨row, col⟩ h hunclosed

/-- An open string literal has a quote that closes it. -/
def Carry.Quoted (carry : Carry) : Prop :=
  ∀ opened, carry.pending = some opened → isQuote opened.quote = true

theorem quoted_of_pending_eq_none {carry : Carry} (h : carry.pending = none) :
    carry.Quoted := by
  intro opened hopened
  simp [h] at hopened

theorem quoted_scanCode (row col : Nat) (terminator : List Char) {carry : Carry}
    (cs : List Char) (h : carry.Quoted) : (scanCode row terminator col carry cs).carry.Quoted := by
  fun_induction scanCode row terminator col carry cs with
  | case1 col carry => exact h
  | case2 col carry c cs hread ih => exact ih h
  | case3 col carry c cs hread => exact h
  | case4 col carry c cs hread => exact h
  | case5 col carry c cs text after hread token next ih => exact ih h
  | case6 col carry c cs quote hread opened =>
      have hunclosed := Lexeme.reads_read c cs
      rw [hread] at hunclosed
      intro opened' hopened
      simp only [Option.some.injEq] at hopened
      subst hopened
      exact isQuote_of_reads_unclosed hunclosed

theorem quoted_scanBody (row : Nat) (line : Line) {carry : Carry} (h : carry.Quoted) :
    (scanBody row line carry).carry.Quoted := by
  unfold scanBody
  split
  · exact quoted_scanCode _ _ _ _ h
  · rename_i opened hpending
    split
    · exact quoted_scanCode _ _ _ _ (quoted_of_pending_eq_none rfl)
    · intro opened' hopened
      simp only [Option.some.injEq] at hopened
      subst hopened
      exact h opened hpending

theorem quoted_scanLine (row : Nat) (line : Line) {carry : Carry} (h : carry.Quoted) :
    (scanLine row line carry).2.Quoted := by
  have hbody := quoted_scanBody row line h
  cases hjoined : (scanBody row line carry).joined with
  | true => rwa [scanLine_of_joined hjoined]
  | false =>
      rw [scanLine_of_not_joined hjoined]
      exact hbody

theorem scanText_scanBody (row : Nat) {line : Line} {carry : Carry} (hcarry : carry.Quoted)
    (h : line.EndsBefore rest) :
    scanText carry.context 0 ⟨row, 1⟩ (line.chars ++ rest) =
      (scanText (scanBody row line carry).carry.context 0 ⟨row + 1, 1⟩ rest).prepend
        ((scanBody row line carry).tokens.filter Token.isComment) := by
  obtain ⟨body, terminator⟩ := line
  rw [Line.chars, List.append_assoc]
  unfold scanBody
  split
  · rename_i hpending
    rw [show carry.context = .code by simp [Carry.context, hpending]]
    exact scanText_scanCode row 1 carry hpending h
  · rename_i opened hpending
    have hquote := hcarry opened hpending
    rw [show carry.context = .triple opened.quote opened.start.row by
      simp [Carry.context, hpending]]
    split
    · rename_i part after hclose
      have hsplit := closeTriple_append hclose
      simp only at hsplit
      subst hsplit
      rw [scanText_closeTriple ⟨row, 1⟩ hquote (head?_ne_of_isQuote hquote h) hclose,
        Position.advance_of_notMem _ h.feed_notMem_front, Nat.add_comm 1]
      exact scanText_scanCode row _ _ rfl h.of_append
    · rename_i hclose
      exact scanText_closeTriple_eq_none ⟨row, 1⟩ hquote h hclose

/-- The scan of a line finds the comments of the line and goes on in the context that the line
leaves to the next. -/
theorem scanText_scanLine (row : Nat) {line : Line} {carry : Carry} (hcarry : carry.Quoted)
    (h : line.EndsBefore rest) :
    scanText carry.context 0 ⟨row, 1⟩ (line.chars ++ rest) =
      (scanText (scanLine row line carry).2.context 0 ⟨row + 1, 1⟩ rest).prepend
        ((scanLine row line carry).1.filter Token.isComment) := by
  rw [scanText_scanBody row hcarry h]
  cases hjoined : (scanBody row line carry).joined with
  | true => rw [scanLine_of_joined hjoined]
  | false =>
      have hbreak :
          (breakAfter row line (scanBody row line carry).carry).1.isComment = false := by
        rcases kind_breakAfter row line (scanBody row line carry).carry with hkind | hkind <;>
          simp [Token.isComment, hkind]
      rw [scanLine_of_not_joined hjoined]
      simp only [List.filter_append, List.filter_singleton, hbreak, cond_false, List.append_nil]
      rfl

theorem scanText_scanLines {text : List Char} {lines : List Line} (row : Nat) {carry : Carry}
    (hcarry : carry.Quoted) (h : Line.Splits text lines) :
    scanText carry.context 0 ⟨row, 1⟩ text =
      ⟨(scanLines row carry lines).1.filter Token.isComment,
        (scanLines row carry lines).2.context.openRow⟩ := by
  induction h generalizing row carry with
  | nil => rfl
  | @cons line rest lines hne hends hrest ih =>
      rw [scanText_scanLine row hcarry hends, ih (row + 1) (quoted_scanLine row line hcarry)]
      simp [scanLines, TextScan.prepend]

theorem scanText_source (source : String) :
    scanText .code 0 ⟨1, 1⟩ source.toList =
      ⟨(scanLines 1 {} (Line.split source.toList)).1.filter Token.isComment,
        (scanLines 1 {} (Line.split source.toList)).2.context.openRow⟩ := by
  have hquoted : ({} : Carry).Quoted := quoted_of_pending_eq_none rfl
  exact scanText_scanLines 1 hquoted (Line.splits_split source.toList)

theorem scanText_of_tokenize_eq_ok {source : String} {tokens : List Token}
    (h : tokenize source = .ok tokens) :
    scanText .code 0 ⟨1, 1⟩ source.toList = ⟨tokens.filter Token.isComment, none⟩ := by
  obtain ⟨hpending, rfl⟩ := tokenize_eq_ok_iff.mp h
  rw [scanText_source]
  simp [Carry.context, hpending, Context.openRow, endMark, Token.isComment]

theorem openRow_of_tokenize_eq_error {source : String} {fault : UnclosedString}
    (h : tokenize source = .error fault) :
    (scanText .code 0 ⟨1, 1⟩ source.toList).openRow = some fault.row := by
  obtain ⟨opened, hpending, rfl⟩ := tokenize_eq_error_iff.mp h
  rw [scanText_source]
  simp [Carry.context, hpending, Context.openRow]

/-- The comments of the tokens are those that the scan by characters finds, and the tokens
cannot be read exactly where the scan ends in a string literal with three quotes. -/
theorem tokenize_map_comments (source : String) :
    (tokenize source).map (·.filter Token.isComment) =
      (scanText .code 0 ⟨1, 1⟩ source.toList).result := by
  unfold TextScan.result
  cases htokens : tokenize source with
  | ok tokens =>
      rw [scanText_of_tokenize_eq_ok htokens]
      rfl
  | error fault =>
      rw [openRow_of_tokenize_eq_error htokens]
      rfl

example : scanText .code 0 ⟨1, 1⟩ "'\\'#' # a\r".toList = ⟨[.comment 1 7 "# a"], none⟩ := by
  decide

end TodoLint
