import TodoLint.Proofs.Token.ContextRun

/-!
Which lines are joined to the next one. What the reading by lines leaves from one line to the next
is the context at the start of a line, and a line is joined to the next one exactly if it ends
inside a string literal with three quotes, or in a backslash that stands in code
(`joined_iff_joinsNext`).
-/

namespace TodoLint

open Text

namespace Context

/-- A text of which `body` is the last line, before `tail`: it ends inside a string literal with
three quotes, or its last line ends in a backslash that stands in code. -/
def Joins (context : Context) (p : Position) (above body tail : List Char) : Prop :=
  (context.run 0 p (above ++ body) tail).1.openRow ≠ none ∨
    body.getLast? = some '\\' ∧
      context.run 0 p (above ++ body.dropLast) ('\\' :: tail) = (.code, 0)

instance (context : Context) (p : Position) (above body tail : List Char) :
    Decidable (context.Joins p above body tail) :=
  inferInstanceAs (Decidable (_ ∨ _))

variable {context next : Context} {p : Position} {above text cs tail terminator rest : List Char}

theorem dropLast_append_backslash (h : cs.getLast? = some '\\') (tail : List Char) :
    cs.dropLast ++ '\\' :: tail = cs ++ tail := by
  obtain ⟨front, rfl⟩ := List.getLast?_eq_some_iff.mp h
  rw [List.dropLast_concat, List.append_assoc, List.singleton_append]

theorem joins_iff_of_run (h : context.run 0 p above (cs ++ tail) = (next, 0)) :
    context.Joins p above cs tail ↔ next.Joins (p.advance above) [] cs tail := by
  unfold Joins
  rw [run_append_of_eq h, List.nil_append, List.nil_append]
  refine or_congr_right (and_congr_right fun hlast => ?_)
  rw [← dropLast_append_backslash hlast] at h
  rw [run_append_of_eq h]

/-- Unless a line ends with its first part, what joins it to the next one lies behind this part. -/
theorem joins_append_iff (hlast : cs = [] → text.getLast? ≠ some '\\') :
    context.Joins p [] (text ++ cs) tail ↔ context.Joins p text cs tail := by
  unfold Joins
  by_cases hcs : cs = []
  · subst hcs
    rw [List.append_nil, List.nil_append]
    refine or_congr_right ⟨fun h => absurd h.1 (hlast rfl), fun h => ?_⟩
    cases h.1
  · rw [List.nil_append, List.nil_append, List.getLast?_append_of_ne_nil _ hcs,
      List.dropLast_append_of_ne_nil hcs]

theorem Keeps.not_joins {q : Char} (h : (single q).Keeps code p cs terminator rest) :
    ¬ (single q).Joins p [] cs (terminator ++ rest) := by
  rintro (hopen | ⟨hlast, hcode⟩)
  · have hcontext := h.inside cs [] (List.append_nil cs)
    rw [List.nil_append] at hcontext
    rw [List.nil_append, hcontext] at hopen
    exact hopen rfl
  · obtain ⟨front, rfl⟩ := List.getLast?_eq_some_iff.mp hlast
    have hcontext := h.inside front ['\\'] rfl
    rw [List.nil_append, List.dropLast_concat] at hcode
    rw [List.singleton_append, hcode] at hcontext
    cases hcontext

theorem Keeps.joins {q : Char} {row : Nat} {after : Context}
    (h : (triple q row).Keeps after p cs terminator rest) :
    (triple q row).Joins p [] cs (terminator ++ rest) := by
  have hcontext := h.inside cs [] (List.append_nil cs)
  rw [List.nil_append] at hcontext
  left
  rw [List.nil_append, hcontext]
  exact Option.some_ne_none row

theorem not_joins_hash (hcs : '\n' ∉ cs) : ¬ code.Joins p [] ('#' :: cs) tail := by
  rintro (hopen | ⟨hlast, hcode⟩)
  · rw [List.nil_append, run_hash p tail hcs] at hopen
    exact hopen rfl
  · -- the comment passes over the backslash
    have hne : cs ≠ [] := by rintro rfl; cases hlast
    have hfront : '\n' ∉ cs.dropLast := fun hmem => hcs (List.dropLast_subset cs hmem)
    rw [List.nil_append, List.dropLast_cons_of_ne_nil hne, run_hash p _ hfront] at hcode
    simp at hcode

/-- The scan of `cs`, the rest of a line, tells whether the line is joined to the next one and the
context that the next one begins in. -/
structure Ends (context : Context) (joined : Bool) (after : Context) (p : Position)
    (cs terminator rest : List Char) : Prop where
  joined_iff : joined = true ↔ context.Joins p [] cs (terminator ++ rest)
  behind : '\n' ∈ terminator → context.run 0 p (cs ++ terminator) rest = (after, 0)

namespace Ends

variable {joined : Bool} {after : Context} {q : Char} {body more : List Char}

/-- What is read in front of the rest of a line does not matter for its end. -/
theorem append (hrun : context.run 0 p text (cs ++ (terminator ++ rest)) = (next, 0))
    (hlast : cs = [] → text.getLast? ≠ some '\\')
    (h : next.Ends joined after (p.advance text) cs terminator rest) :
    context.Ends joined after p (text ++ cs) terminator rest where
  joined_iff := by
    rw [joins_append_iff hlast, joins_iff_of_run hrun]
    exact h.joined_iff
  behind := by
    intro hfeed
    rw [← List.append_assoc] at hrun
    rw [List.append_assoc, run_append_of_eq hrun]
    exact h.behind hfeed

theorem of_code_nil (h : Line.EndsBefore ⟨[], terminator⟩ rest) :
    code.Ends false code p [] terminator rest where
  joined_iff := by
    refine ⟨fun hjoined => absurd hjoined Bool.false_ne_true, ?_⟩
    rintro (hopen | ⟨hlast, -⟩)
    · exact absurd rfl hopen
    · cases hlast
  behind := fun hfeed => run_code_terminator p h hfeed (List.length_pos_of_mem hfeed)

theorem of_hash (h : Line.EndsBefore ⟨'#' :: cs, terminator⟩ rest) :
    code.Ends false code p ('#' :: cs) terminator rest where
  joined_iff :=
    ⟨fun hjoined => absurd hjoined Bool.false_ne_true, fun hjoins => absurd hjoins
      (not_joins_hash h.tail.feed_notMem)⟩
  behind := by
    intro hfeed
    have hskip : ((terminator ++ rest).takeWhile (· ≠ '\n')).length < terminator.length := by
      rcases terminator_eq_of_feed h.without_body hfeed with rfl | rfl <;> simp
    rw [run_append, run_hash p _ h.tail.feed_notMem]
    exact run_code_terminator _ h.without_body hfeed hskip

theorem of_backslash (h : Line.EndsBefore ⟨['\\'], terminator⟩ rest) :
    code.Ends true code p ['\\'] terminator rest where
  joined_iff := ⟨fun _ => .inr ⟨rfl, rfl⟩, fun _ => rfl⟩
  behind := by
    intro hfeed
    have hplain : ∀ c ∈ ['\\'], IsPlain c := by simp [IsPlain, isQuote]
    rw [run_append_of_eq (run_code_plain p _ hplain)]
    exact run_code_terminator _ h.without_body hfeed (List.length_pos_of_mem hfeed)

theorem of_keeps_triple {row : Nat}
    (h : (triple q row).Keeps (triple q row) p cs terminator rest) :
    (triple q row).Ends true (triple q row) p cs terminator rest where
  joined_iff := ⟨fun _ => h.joins, fun _ => rfl⟩
  behind := h.behind

/-- A string literal that takes the rest of a line ends with it. -/
theorem of_keeps_single {p' : Position} (hkeeps : (single q).Keeps code p cs terminator rest)
    (hends : Line.EndsBefore ⟨[], terminator⟩ rest)
    (h : code.Ends joined after p' [] terminator rest) :
    (single q).Ends joined after p cs terminator rest where
  joined_iff := by
    have hjoins := (@of_code_nil p' _ _ hends).joined_iff
    rw [h.joined_iff, ← hjoins]
    exact ⟨fun hjoined => absurd hjoined Bool.false_ne_true,
      fun hjoined => absurd hjoined hkeeps.not_joins⟩
  behind := by
    intro hfeed
    rw [hkeeps.behind hfeed, ← h.behind hfeed]
    exact (of_code_nil hends).behind hfeed |>.symm

theorem getLast?_ne_of_isQuote (hq : isQuote q = true) (h : text.getLast? = some q) :
    text.getLast? ≠ some '\\' := by
  rw [h]
  exact fun heq => ne_of_isQuote hq (by decide) (Option.some.inj heq)

theorem of_single (hends : Line.EndsBefore ⟨body ++ more, terminator⟩ rest) (hq : isQuote q = true)
    (hclose : closeSingle q (body ++ more) = (body, more))
    (h : code.Ends joined after (p.advance body) more terminator rest) :
    (single q).Ends joined after p (body ++ more) terminator rest := by
  rcases run_closeSingle p hq hends hclose with ⟨hrun, hlast⟩ | ⟨rfl, hkeeps⟩
  · exact h.append hrun fun _ => getLast?_ne_of_isQuote hq hlast
  · rw [List.append_nil]
    exact of_keeps_single hkeeps hends.without_body h

theorem of_piece (hends : Line.EndsBefore ⟨cs, terminator⟩ rest)
    (hreads : Lexeme.Reads cs (.piece text more))
    (hlast : more = [] → (∀ c ∈ text, IsPlain c) → text.getLast? ≠ some '\\')
    (h : code.Ends joined after (p.advance text) more terminator rest) :
    code.Ends joined after p cs terminator rest := by
  cases hreads with
  | plain hne htext =>
      exact h.append (run_code_plain p _ htext) fun hnil => hlast hnil htext
  | @single word cs body _ q hword hq hone hclose =>
      have hsplit := closeSingle_append q cs
      rw [hclose] at hsplit
      subst hsplit
      rw [Position.advance_append] at h
      have hbody := of_single hends.of_append.tail hq hclose h
      have hquote := hbody.append
        (run_quote (p.advance word) hq hone (head?_ne_of_isQuote hq hends))
        fun _ => getLast?_ne_of_isQuote hq rfl
      exact hquote.append (run_code_plain p _ hword) fun hnil => absurd hnil (by simp)
  | @triple word cs body _ q hword hq hclose =>
      have hsplit := closeTriple_append hclose
      subst hsplit
      rw [Position.advance_append] at h
      obtain ⟨hrun, hbody⟩ := run_closeTriple (p.advance word).row
        ((p.advance word).advance [q, q, q]) hq (head?_ne_of_isQuote hq hends) hclose
      have hinner := h.append hrun fun _ => getLast?_ne_of_isQuote hq hbody
      have hquotes := hinner.append (run_quotes (p.advance word) hq _)
        fun _ => getLast?_ne_of_isQuote hq rfl
      exact hquotes.append (run_code_plain p _ hword) fun hnil => absurd hnil (by simp)

theorem of_unclosed (hends : Line.EndsBefore ⟨cs, terminator⟩ rest)
    (hreads : Lexeme.Reads cs (.unclosed q)) :
    code.Ends true (triple q p.row) p cs terminator rest := by
  cases hreads with
  | @unclosed word cs q hword hq hopen =>
      have hrow : (p.advance word).row = p.row := by
        rw [p.advance_of_notMem hends.feed_notMem_front]
      have hinner := of_keeps_triple (keeps_closeTriple (p.advance word).row
        ((p.advance word).advance [q, q, q]) hq hends.of_append.tail.tail.tail hopen)
      have hquotes := hinner.append (run_quotes (p.advance word) hq _)
        fun _ => getLast?_ne_of_isQuote hq rfl
      rw [← hrow]
      exact hquotes.append (run_code_plain p _ hword) fun hnil => absurd hnil (by simp)

end Ends

end Context

/-! ### The reading of a line -/

section Line

variable {terminator rest : List Char}

theorem ends_scanCode (row col : Nat) (carry : Carry) {cs : List Char}
    (hcarry : carry.pending = none) (h : Line.EndsBefore ⟨cs, terminator⟩ rest) :
    Context.code.Ends (scanCode row terminator col carry cs).joined
      (scanCode row terminator col carry cs).carry.context ⟨row, col⟩ cs terminator rest := by
  fun_induction scanCode row terminator col carry cs with
  | case1 col carry =>
      simp only [Carry.context, hcarry]
      exact .of_code_nil h
  | case2 col carry c cs hread ih =>
      have hblank := Lexeme.isBlank_of_read hread
      have hplain : ∀ d ∈ [c], IsPlain d := by
        intro d hd
        exact List.mem_singleton.mp hd ▸ isPlain_of_isBlank hblank
      have hc : [c].getLast? ≠ some '\\' := by
        rintro ⟨⟩
        cases hblank
      have hrest := ih hcarry h.tail
      rw [← Position.after_of_ne ⟨row, col⟩ h.head_ne] at hrest
      exact hrest.append (Context.run_code_plain _ _ hplain) fun _ => hc
  | case3 col carry c cs hread =>
      obtain rfl := Lexeme.eq_hash_of_read hread
      simp only [Carry.context, hcarry]
      exact .of_hash h
  | case4 col carry c cs hread =>
      obtain ⟨rfl, rfl⟩ := Lexeme.eq_backslash_of_read hread
      simp only [Carry.context, hcarry]
      exact .of_backslash h
  | case5 col carry c cs text after hread token next ih =>
      have hpiece := Lexeme.reads_read c cs
      rw [hread] at hpiece
      have hends := h
      rw [← Lexeme.piece_append_rest hread] at hends
      have hrest := ih hcarry hends.of_append
      have hcol : Position.advance ⟨row, col⟩ text = ⟨row, col + text.length⟩ :=
        Position.advance_of_notMem _ hends.feed_notMem_front
      rw [← hcol] at hrest
      refine Context.Ends.of_piece h hpiece (fun hnil => ?_) hrest
      subst hnil
      exact Lexeme.getLast?_ne_of_read hread
  | case6 col carry c cs quote hread opened =>
      have hunclosed := Lexeme.reads_read c cs
      rw [hread] at hunclosed
      exact Context.Ends.of_unclosed h hunclosed

theorem ends_scanBody (row : Nat) {line : Line} {carry : Carry} (hcarry : carry.Quoted)
    (h : line.EndsBefore rest) :
    carry.context.Ends (scanBody row line carry).joined (scanBody row line carry).carry.context
      ⟨row, 1⟩ line.body line.terminator rest := by
  cases hpending : carry.pending with
  | none =>
      have hcontext : carry.context = .code := by simp [Carry.context, hpending]
      rw [hcontext, scanBody_of_none hpending]
      exact ends_scanCode row 1 carry hpending h
  | some opened =>
      have hquote := hcarry opened hpending
      have hcontext : carry.context = .triple opened.quote opened.start.row := by
        simp [Carry.context, hpending]
      rw [hcontext]
      cases hclose : closeTriple opened.quote line.body with
      | none =>
          rw [scanBody_of_open hpending hclose]
          exact .of_keeps_triple (Context.keeps_closeTriple _ _ hquote h hclose)
      | some found =>
          obtain ⟨part, after⟩ := found
          obtain ⟨body, terminator⟩ := line
          have hsplit := closeTriple_append hclose
          simp only at hsplit
          subst hsplit
          rw [scanBody_of_closed hpending hclose]
          obtain ⟨hrun, hlast⟩ := Context.run_closeTriple opened.start.row ⟨row, 1⟩ hquote
            (head?_ne_of_isQuote hquote h) hclose
          have hcol : Position.advance ⟨row, 1⟩ part = ⟨row, part.length + 1⟩ := by
            rw [Position.advance_of_notMem _ h.feed_notMem_front, Nat.add_comm]
          have hcode := ends_scanCode row (part.length + 1)
            { carry with logicalOpen := true, pending := none } rfl h.of_append
          rw [← hcol] at hcode
          exact hcode.append hrun fun _ => Context.Ends.getLast?_ne_of_isQuote hquote hlast

/-- The next line begins in the context that the line leaves to it. -/
theorem run_scanLine (row : Nat) {line : Line} {carry : Carry} (hcarry : carry.Quoted)
    (h : line.EndsBefore rest) (hfeed : '\n' ∈ line.terminator) :
    carry.context.run 0 ⟨row, 1⟩ line.chars rest = ((scanLine row line carry).2.context, 0) := by
  have hbody := (ends_scanBody row hcarry h).behind hfeed
  cases hjoined : (scanBody row line carry).joined with
  | true => rwa [scanLine_of_joined hjoined]
  | false => rwa [scanLine_of_not_joined hjoined]

end Line

/-! ### Lines of a source -/

/-- A line, between those above and those below it, that is joined to the next one: the text up to
its end ends inside a string literal with three quotes, or the line ends in a backslash that stands
in code. -/
def JoinsNext (above : List Line) (line : Line) (below : List Line) : Prop :=
  Context.code.Joins ⟨1, 1⟩ (above.flatMap Line.chars) line.body
    (line.terminator ++ below.flatMap Line.chars)

instance (above : List Line) (line : Line) (below : List Line) :
    Decidable (JoinsNext above line below) :=
  inferInstanceAs (Decidable (Context.Joins _ _ _ _ _))

section Lines

variable {text : List Char} {above below : List Line} {line : Line}

theorem Text.Line.Splits.flatMap_chars {lines : List Line} (h : Line.Splits text lines) :
    lines.flatMap Line.chars = text := by
  induction h with
  | nil => rfl
  | cons _ _ _ ih => rw [List.flatMap_cons, ih]

/-- The scan reaches a line in the context that the lines above leave to it. -/
theorem run_scanLines (h : Line.Splits text (above ++ line :: below)) (row : Nat) {carry : Carry}
    (hcarry : carry.Quoted) :
    carry.context.run 0 ⟨row, 1⟩ (above.flatMap Line.chars)
        (line.chars ++ below.flatMap Line.chars) = ((scanLines row carry above).2.context, 0) ∧
      Position.advance ⟨row, 1⟩ (above.flatMap Line.chars) = ⟨row + above.length, 1⟩ ∧
      line.EndsBefore (below.flatMap Line.chars) ∧ (scanLines row carry above).2.Quoted := by
  induction above generalizing text row carry with
  | nil =>
      cases h with
      | cons hne hends hrest =>
          rw [← hrest.flatMap_chars] at hends
          exact ⟨rfl, rfl, hends, hcarry⟩
  | cons first above ih =>
      rw [List.cons_append] at h
      cases h with
      | @cons _ rest _ hne hends hrest =>
          have htext := hrest.flatMap_chars
          rw [List.flatMap_append, List.flatMap_cons] at htext
          have hfeed : '\n' ∈ first.terminator := by
            by_contra hnot
            have hnil := hrest.eq_nil (hends.rest_eq_nil hnot)
            simp at hnil
          obtain ⟨hrun, hadvance, hline, hquoted⟩ :=
            ih hrest (row + 1) (quoted_scanLine row first hcarry)
          have hfirst := run_scanLine row hcarry hends hfeed
          have hnext : Position.advance ⟨row, 1⟩ first.chars = ⟨row + 1, 1⟩ :=
            Position.advance_line ⟨row, 1⟩ hends hfeed
          rw [← htext] at hfirst
          rw [List.flatMap_cons, Context.run_append_of_eq hfirst, Position.advance_append, hnext,
            scanLines_cons, List.length_cons, Nat.add_comm above.length, ← Nat.add_assoc]
          exact ⟨hrun, hadvance, hline, hquoted⟩

/-- The reading joins a line to the next one exactly if the scan by characters says so. -/
theorem joined_iff_joinsNext (h : Line.Splits text (above ++ line :: below)) :
    (scanBody (above.length + 1) line (scanLines 1 {} above).2).joined = true ↔
      JoinsNext above line below := by
  have hquoted : ({} : Carry).Quoted := quoted_of_pending_eq_none rfl
  have hstart : ({} : Carry).context = .code := rfl
  obtain ⟨hrun, hadvance, hline, hcarry⟩ := run_scanLines h 1 hquoted
  have hends := ends_scanBody (above.length + 1) hcarry hline
  rw [hstart, Line.chars, List.append_assoc] at hrun
  rw [hends.joined_iff, JoinsNext, Context.joins_iff_of_run hrun, hadvance, Nat.add_comm 1]

end Lines

end TodoLint
