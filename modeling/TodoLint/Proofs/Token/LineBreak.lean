import Mathlib.Data.List.DropRight
import TodoLint.Proofs.Token.LineJoin

/-!
The line breaks of a source, predicted from its lines and from the tokens around them. A line has
one break, behind its other tokens, unless it is joined to the next line; and the tokens in front of
a break tell whether it ends a logical line (`tokenize_breaks`).
-/

namespace TodoLint

open Text

/-! ### Brackets and code in a token list -/

namespace Token

def opensBracket (t : Token) : Bool :=
  t.kind == .other && [['('], ['['], ['{']].contains t.text.toList

def closesBracket (t : Token) : Bool :=
  t.kind == .other && [[')'], [']'], ['}']].contains t.text.toList

end Token

/-- The number of brackets that are open after the tokens. A closing bracket that closes nothing
counts for nothing. -/
def bracketDepth (tokens : List Token) : Nat :=
  tokens.foldl (fun depth t =>
    if t.opensBracket then depth + 1 else if t.closesBracket then depth - 1 else depth) 0

/-- Code stands behind the last end of a logical line. -/
def CodeOpen (tokens : List Token) : Prop :=
  ∃ t ∈ tokens.rtakeWhile (fun t => t.kind ≠ .logicalNewline), t.kind = .other

instance (tokens : List Token) : Decidable (CodeOpen tokens) :=
  inferInstanceAs (Decidable (∃ t ∈ _, _))

section Replay

variable {seen : List Token} {t : Token}

theorem codeOpen_concat_iff :
    CodeOpen (seen ++ [t]) ↔ t.kind = .other ∨ t.kind ≠ .logicalNewline ∧ CodeOpen seen := by
  unfold CodeOpen
  rw [List.rtakeWhile_concat]
  cases hkind : t.kind with
  | logicalNewline => simp
  | comment | newline | other => simp [or_comm, or_and_right, exists_or, hkind]

theorem bracketDepth_concat (seen : List Token) (t : Token) :
    bracketDepth (seen ++ [t]) =
      if t.opensBracket then bracketDepth seen + 1
      else if t.closesBracket then bracketDepth seen - 1
      else bracketDepth seen := by
  simp [bracketDepth]

theorem bracketDepth_concat_of_ne (h : t.kind ≠ .other) :
    bracketDepth (seen ++ [t]) = bracketDepth seen := by
  rw [bracketDepth_concat]
  simp [Token.opensBracket, Token.closesBracket, h]

theorem depthAfter_eq (depth : Nat) (piece : List Char) :
    depthAfter depth piece =
      if [['('], ['['], ['{']].contains piece then depth + 1
      else if [[')'], [']'], ['}']].contains piece then depth - 1
      else depth := by
  unfold depthAfter
  split
  · rfl
  · rfl
  · rfl
  · rfl
  · rfl
  · rfl
  · simp_all

theorem bracketDepth_concat_of_other (h : t.kind = .other) :
    bracketDepth (seen ++ [t]) = depthAfter (bracketDepth seen) t.text.toList := by
  rw [bracketDepth_concat, depthAfter_eq]
  simp only [Token.opensBracket, Token.closesBracket, h, BEq.rfl, Bool.true_and]

end Replay

/-! ### What the reading keeps of the tokens -/

theorem depthAfter_of_length {piece : List Char} (depth : Nat) (h : 2 ≤ piece.length) :
    depthAfter depth piece = depth := by
  match piece with
  | c :: d :: cs => simp [depthAfter]

theorem three_le_length_of_closeTriple {q : Char} {cs body after : List Char}
    (h : closeTriple q cs = some (body, after)) : 3 ≤ body.length := by
  obtain ⟨inner, rfl⟩ := exists_append_of_closeTriple h
  simp

/-- What is left to the next line counts the open brackets of the tokens so far, and knows of their
code and of that of an open string literal. -/
structure Carry.Records (carry : Carry) (seen : List Token) : Prop where
  depth_eq : carry.depth = bracketDepth seen
  logicalOpen_iff : carry.logicalOpen = true ↔ CodeOpen seen ∨ carry.pending ≠ none

/-- Every line break of `tokens`, which stand behind `seen`, ends a logical line if code stands
behind the last end of one and no bracket is open. -/
def PredictsBreaks (seen tokens : List Token) : Prop :=
  ∀ before b after, before ++ b :: after = tokens → b.IsBreak →
    b.kind = if CodeOpen (seen ++ before) ∧ bracketDepth (seen ++ before) = 0 then .logicalNewline
      else .newline

section Lines

variable {seen ts us : List Token} {row : Nat} {carry : Carry} {line : Line}

theorem Carry.Records.other {t : Token} (h : carry.Records seen) (ht : t.kind = .other) :
    ({ carry with depth := depthAfter carry.depth t.text.toList, logicalOpen := true } :
      Carry).Records (seen ++ [t]) where
  depth_eq := by
    rw [bracketDepth_concat_of_other ht, ← h.depth_eq]
  logicalOpen_iff := by simp [codeOpen_concat_iff, ht]

theorem Carry.Records.comment {t : Token} (h : carry.Records seen) (ht : t.kind = .comment) :
    carry.Records (seen ++ [t]) where
  depth_eq := by rw [bracketDepth_concat_of_ne (by simp [ht]), h.depth_eq]
  logicalOpen_iff := by simpa [codeOpen_concat_iff, ht] using h.logicalOpen_iff

theorem records_scanCode (row col : Nat) (terminator cs : List Char) :
    ∀ seen, carry.Records seen → (scanCode row terminator col carry cs).carry.Records
      (seen ++ (scanCode row terminator col carry cs).tokens) := by
  fun_induction scanCode row terminator col carry cs with
  | case1 col carry =>
      intro seen h
      rwa [List.append_nil]
  | case2 col carry c cs hread ih => exact ih
  | case3 col carry c cs hread =>
      intro seen h
      exact h.comment rfl
  | case4 col carry c cs hread =>
      intro seen h
      rwa [List.append_nil]
  | case5 col carry c cs text after hread token next ih =>
      intro seen h
      have htoken : (_ : Carry).Records (seen ++ [token]) := h.other rfl
      rw [String.toList_ofList] at htoken
      have hnext := ih _ htoken
      rwa [List.append_assoc, List.singleton_append] at hnext
  | case6 col carry c cs quote hread opened =>
      intro seen h
      rw [List.append_nil]
      exact ⟨h.depth_eq, by simp⟩

theorem records_scanBody (row : Nat) (line : Line) (h : carry.Records seen) :
    (scanBody row line carry).carry.Records (seen ++ (scanBody row line carry).tokens) := by
  cases hpending : carry.pending with
  | none =>
      rw [scanBody_of_none hpending]
      exact records_scanCode row 1 line.terminator line.body seen h
  | some opened =>
      cases hclose : closeTriple opened.quote line.body with
      | none =>
          rw [scanBody_of_open hpending hclose, List.append_nil]
          exact ⟨h.depth_eq, by simpa [hpending] using h.logicalOpen_iff⟩
      | some found =>
          obtain ⟨part, after⟩ := found
          let token : Token :=
            ⟨.other, String.ofList (opened.text ++ part), opened.start, ⟨row, part.length + 1⟩⟩
          have htext : token.text.toList = opened.text ++ part := String.toList_ofList
          have hdepth : depthAfter carry.depth token.text.toList = carry.depth := by
            have hlength := three_le_length_of_closeTriple hclose
            apply depthAfter_of_length
            rw [htext, List.length_append]
            omega
          have htoken : ({ carry with logicalOpen := true, pending := none } : Carry).Records
              (seen ++ [token]) := by
            have hother : (_ : Carry).Records (seen ++ [token]) := h.other rfl
            rw [hdepth] at hother
            exact ⟨hother.depth_eq, by simp [codeOpen_concat_iff, token]⟩
          have hcode := records_scanCode row (part.length + 1) line.terminator after _ htoken
          rw [scanBody_of_closed hpending hclose]
          rwa [List.append_assoc, List.singleton_append] at hcode

theorem pending_scanCode {col : Nat} {terminator cs : List Char} (hcarry : carry.pending = none)
    (h : (scanCode row terminator col carry cs).joined = false) :
    (scanCode row terminator col carry cs).carry.pending = none := by
  fun_induction scanCode row terminator col carry cs with
  | case1 | case3 | case4 => exact hcarry
  | case2 _ _ _ _ _ ih => exact ih hcarry h
  | case5 _ _ _ _ _ _ _ _ _ ih => exact ih hcarry h
  | case6 => cases h

theorem pending_scanBody (h : (scanBody row line carry).joined = false) :
    (scanBody row line carry).carry.pending = none := by
  cases hpending : carry.pending with
  | none =>
      rw [scanBody_of_none hpending] at h ⊢
      exact pending_scanCode hpending h
  | some opened =>
      cases hclose : closeTriple opened.quote line.body with
      | none =>
          rw [scanBody_of_open hpending hclose] at h
          cases h
      | some found =>
          rw [scanBody_of_closed hpending hclose] at h ⊢
          exact pending_scanCode rfl h

theorem Carry.Records.logical_iff (h : carry.Records seen) (hpending : carry.pending = none) :
    (carry.logicalOpen && carry.depth == 0) = true ↔ CodeOpen seen ∧ bracketDepth seen = 0 := by
  rw [Bool.and_eq_true, h.logicalOpen_iff, beq_iff_eq, h.depth_eq, hpending]
  simp

theorem kind_breakAfter_eq (row : Nat) (line : Line) (h : carry.Records seen)
    (hpending : carry.pending = none) :
    (breakAfter row line carry).1.kind =
      if CodeOpen seen ∧ bracketDepth seen = 0 then .logicalNewline else .newline := by
  simp only [breakAfter, h.logical_iff hpending]

theorem records_breakAfter (row : Nat) (line : Line) (h : carry.Records seen)
    (hpending : carry.pending = none) :
    (breakAfter row line carry).2.Records (seen ++ [(breakAfter row line carry).1]) where
  depth_eq := by
    have hne : (breakAfter row line carry).1.kind ≠ .other := by
      rcases kind_breakAfter row line carry with hkind | hkind <;> simp [hkind]
    rw [bracketDepth_concat_of_ne hne]
    exact h.depth_eq
  logicalOpen_iff := by
    have hafter : (breakAfter row line carry).2.pending = none := hpending
    have hlogical := h.logical_iff hpending
    rw [codeOpen_concat_iff, kind_breakAfter_eq row line h hpending, hafter]
    by_cases hcode : CodeOpen seen ∧ bracketDepth seen = 0
    · -- the end of a logical line leaves no code behind it
      have htrue := hlogical.mpr hcode
      simp [breakAfter, htrue, hcode]
    · have hfalse := Bool.eq_false_iff.mpr (hlogical.not.mpr hcode)
      simpa [breakAfter, hfalse, hcode, hpending] using h.logicalOpen_iff

theorem predictsBreaks_of_not_isBreak (h : ∀ t ∈ ts, ¬ t.IsBreak) : PredictsBreaks seen ts := by
  rintro before b after rfl hb
  exact absurd hb (h b (by simp))

theorem PredictsBreaks.append (hts : PredictsBreaks seen ts)
    (hus : PredictsBreaks (seen ++ ts) us) : PredictsBreaks seen (ts ++ us) := by
  intro before b after hsplit hb
  rcases List.append_eq_append_iff.mp hsplit with ⟨middle, rfl, hmiddle⟩ | ⟨front, rfl, hus'⟩
  · cases middle with
    | nil =>
        have hlast := hus [] b after hmiddle hb
        rwa [List.append_nil, List.append_nil] at hlast
    | cons c middle =>
        obtain ⟨rfl, rfl⟩ := List.cons.inj hmiddle
        exact hts before b middle rfl hb
  · rw [← List.append_assoc]
    exact hus front b after hus'.symm hb

end Lines

/-! ### Rows -/

/-- Where the string literal starts in whose middle the next line begins. -/
def Carry.start? (carry : Carry) : Option Position :=
  carry.pending.map OpenString.start

section Rows

variable {row : Nat} {carry : Carry} {line : Line} {lines : List Line} {t : Token} {p : Position}

theorem starts_scanCode {col : Nat} {terminator cs : List Char} (hcarry : carry.pending = none) :
    (∀ t ∈ (scanCode row terminator col carry cs).tokens, ¬ t.IsBreak ∧ t.start.row = row) ∧
      ∀ p, (scanCode row terminator col carry cs).carry.start? = some p → p.row = row := by
  fun_induction scanCode row terminator col carry cs with
  | case1 col carry | case4 col carry => simp [Carry.start?, hcarry]
  | case2 col carry c cs hread ih => exact ih hcarry
  | case3 col carry c cs hread => simp [Carry.start?, hcarry, Token.comment, Token.IsBreak]
  | case5 col carry c cs text after hread token next ih =>
      obtain ⟨htokens, hstart⟩ := ih hcarry
      refine ⟨fun t ht => ?_, hstart⟩
      rcases List.mem_cons.mp ht with rfl | ht
      · exact ⟨by simp [token, Token.IsBreak], rfl⟩
      · exact htokens t ht
  | case6 col carry c cs quote hread opened => simp [Carry.start?, opened]

/-- What starts in a line starts on its row, or it is the string literal in whose middle the line
begins. -/
theorem starts_scanBody :
    (∀ t ∈ (scanBody row line carry).tokens,
        ¬ t.IsBreak ∧ (t.start.row = row ∨ carry.start? = some t.start)) ∧
      ∀ p, (scanBody row line carry).carry.start? = some p →
        p.row = row ∨ carry.start? = some p := by
  cases hpending : carry.pending with
  | none =>
      rw [scanBody_of_none hpending]
      obtain ⟨htokens, hstart⟩ := @starts_scanCode row carry 1 line.terminator line.body hpending
      exact ⟨fun t ht => (htokens t ht).imp_right .inl, fun p hp => .inl (hstart p hp)⟩
  | some opened =>
      have hcarry : carry.start? = some opened.start := by simp [Carry.start?, hpending]
      cases hclose : closeTriple opened.quote line.body with
      | none =>
          rw [scanBody_of_open hpending hclose, hcarry]
          exact ⟨fun t ht => absurd ht List.not_mem_nil, fun p hp => .inr hp⟩
      | some found =>
          obtain ⟨part, after⟩ := found
          rw [scanBody_of_closed hpending hclose, hcarry]
          obtain ⟨htokens, hstart⟩ := @starts_scanCode row
            { carry with logicalOpen := true, pending := none } (part.length + 1) line.terminator
            after rfl
          refine ⟨fun t ht => ?_, fun p hp => .inl (hstart p hp)⟩
          rcases List.mem_cons.mp ht with rfl | ht
          · exact ⟨by simp [Token.IsBreak], .inr rfl⟩
          · exact (htokens t ht).imp_right .inl

theorem starts_scanLine :
    (∀ t ∈ (scanLine row line carry).1,
        t.start.row = row ∨ ¬ t.IsBreak ∧ carry.start? = some t.start) ∧
      ∀ p, (scanLine row line carry).2.start? = some p →
        p.row = row ∨ carry.start? = some p := by
  obtain ⟨htokens, hstart⟩ := @starts_scanBody row carry line
  cases hjoined : (scanBody row line carry).joined with
  | true =>
      rw [scanLine_of_joined hjoined]
      exact ⟨fun t ht => (htokens t ht).2.imp_right fun h => ⟨(htokens t ht).1, h⟩, hstart⟩
  | false =>
      rw [scanLine_of_not_joined hjoined]
      refine ⟨fun t ht => ?_, hstart⟩
      rcases List.mem_append.mp ht with ht | ht
      · exact (htokens t ht).2.imp_right fun h => ⟨(htokens t ht).1, h⟩
      · rw [List.mem_singleton.mp ht]
        exact .inl rfl

/-- Line breaks start on the rows of the lines, and so does all that does not start before them. -/
theorem le_row_scanLines (ht : t ∈ (scanLines row carry lines).1) :
    row ≤ t.start.row ∨ ¬ t.IsBreak ∧ carry.start? = some t.start := by
  induction lines generalizing row carry with
  | nil => exact absurd ht List.not_mem_nil
  | cons line lines ih =>
      obtain ⟨htokens, hstart⟩ := @starts_scanLine row carry line
      rw [scanLines_cons] at ht
      rcases List.mem_append.mp ht with ht | ht
      · exact (htokens t ht).imp_left fun hrow => Nat.le_of_eq hrow.symm
      · rcases ih ht with hrow | ⟨hbreak, hafter⟩
        · exact .inl (Nat.le_of_succ_le hrow)
        · rcases hstart _ hafter with hrow | hcarry
          · exact .inl (Nat.le_of_eq hrow.symm)
          · exact .inr ⟨hbreak, hcarry⟩

theorem row_lt_scanLines (hcarry : ∀ p, carry.start? = some p → p.row < row) :
    ∀ t ∈ (scanLines row carry lines).1, t.start.row < row + lines.length := by
  induction lines generalizing row carry with
  | nil => exact fun t ht => absurd ht List.not_mem_nil
  | cons line lines ih =>
      intro t ht
      obtain ⟨htokens, hstart⟩ := @starts_scanLine row carry line
      rw [scanLines_cons] at ht
      rw [List.length_cons]
      rcases List.mem_append.mp ht with ht | ht
      · rcases htokens t ht with hrow | ⟨-, hstart⟩
        · omega
        · have hrow := hcarry _ hstart
          omega
      · have hafter : ∀ p, (scanLine row line carry).2.start? = some p → p.row < row + 1 := by
          intro p hp
          rcases hstart p hp with hrow | hstart
          · omega
          · exact Nat.lt_succ_of_lt (hcarry p hstart)
        have hrow := ih hafter t ht
        omega

end Rows

/-! ### Lines -/

section Breaks

variable {seen : List Token} {row : Nat} {carry : Carry}

theorem not_isBreak_scanBody {line : Line} : ∀ t ∈ (scanBody row line carry).tokens, ¬ t.IsBreak :=
  fun t ht => (starts_scanBody.1 t ht).1

theorem predictsBreaks_scanLine (row : Nat) (line : Line) (h : carry.Records seen) :
    PredictsBreaks seen (scanLine row line carry).1 ∧
      (scanLine row line carry).2.Records (seen ++ (scanLine row line carry).1) := by
  have hbody := records_scanBody row line h
  have hnone : PredictsBreaks seen (scanBody row line carry).tokens :=
    predictsBreaks_of_not_isBreak not_isBreak_scanBody
  cases hjoined : (scanBody row line carry).joined with
  | true =>
      rw [scanLine_of_joined hjoined]
      exact ⟨hnone, hbody⟩
  | false =>
      have hpending := pending_scanBody hjoined
      rw [scanLine_of_not_joined hjoined, ← List.append_assoc]
      refine ⟨hnone.append ?_, records_breakAfter row line hbody hpending⟩
      intro before b after hsplit hb
      obtain ⟨rfl, hcons⟩ | ⟨hcons, hnil⟩ := List.append_eq_singleton_iff.mp hsplit
      · obtain ⟨rfl, rfl⟩ := List.cons.inj hcons
        rw [List.append_nil]
        exact kind_breakAfter_eq row line hbody hpending
      · cases hnil

theorem predictsBreaks_scanLines (row : Nat) (lines : List Line) (h : carry.Records seen) :
    PredictsBreaks seen (scanLines row carry lines).1 := by
  induction lines generalizing row carry seen with
  | nil => exact predictsBreaks_of_not_isBreak fun t ht => absurd ht List.not_mem_nil
  | cons line lines ih =>
      obtain ⟨hline, hrecords⟩ := predictsBreaks_scanLine row line h
      rw [scanLines_cons]
      exact hline.append (ih (row + 1) hrecords)

/-- The tokens of a row end in the line break of its line and have no other one, or they have none
because the line is joined to the next one. -/
inductive EndsRow (joined : Prop) (place : Position) (terminator : List Char) : List Token → Prop
  | joined {tokens : List Token} (hjoined : joined) (htokens : ∀ t ∈ tokens, ¬ t.IsBreak) :
      EndsRow joined place terminator tokens
  | broken {tokens : List Token} {b : Token} (hjoined : ¬ joined)
      (htokens : ∀ t ∈ tokens, ¬ t.IsBreak) (hb : b.IsBreak) (hstart : b.start = place)
      (htext : b.text.toList = terminator) : EndsRow joined place terminator (tokens ++ [b])

theorem EndsRow.not_isBreak {joined : Prop} {place : Position} {terminator : List Char}
    {tokens : List Token} (h : EndsRow joined place terminator tokens) (hjoined : joined) :
    ∀ t ∈ tokens, ¬ t.IsBreak := by
  cases h with
  | joined _ htokens => exact htokens
  | broken hnot => exact absurd hjoined hnot

end Breaks

/-! ### Sources -/

section Source

variable {source : String} {tokens : List Token}

theorem filter_row_of_tokenize (h : tokenize source = .ok tokens) {above below : List Line}
    {line : Line} (hlines : above ++ line :: below = Line.split source.toList) :
    tokens.filter (·.start.row = above.length + 1) =
      (scanLine (above.length + 1) line (scanLines 1 {} above).2).1.filter
          (·.start.row = above.length + 1) ++
        (scanLines (above.length + 2) (scanLine (above.length + 1) line (scanLines 1 {} above).2).2
          below).1.filter (·.start.row = above.length + 1) := by
  obtain ⟨-, rfl⟩ := tokenize_eq_ok_iff.mp h
  rw [← hlines, scanLines_append, scanLines_cons, Nat.add_comm 1, List.filter_append,
    List.filter_append, List.filter_append]
  have habove : (scanLines 1 {} above).1.filter (·.start.row = above.length + 1) = [] := by
    rw [List.filter_eq_nil_iff]
    intro t ht hrow
    have hlt := row_lt_scanLines (by simp [Carry.start?]) t ht
    simp only [decide_eq_true_eq] at hrow
    omega
  have hmark : [endMark (above ++ line :: below).length].filter
      (·.start.row = above.length + 1) = [] := by
    simp [endMark]
  rw [habove, hmark, List.nil_append, List.append_nil]

theorem endsRow_of_tokenize (h : tokenize source = .ok tokens) {above below : List Line}
    {line : Line} (hlines : above ++ line :: below = Line.split source.toList) :
    EndsRow (JoinsNext above line below) ⟨above.length + 1, line.body.length + 1⟩ line.terminator
      (tokens.filter (·.start.row = above.length + 1)) := by
  have hsplits := Line.splits_split source.toList
  rw [← hlines] at hsplits
  have hiff := joined_iff_joinsNext hsplits
  rw [filter_row_of_tokenize h hlines]
  generalize (scanLines 1 {} above).2 = carry at hiff ⊢
  cases hjoined : (scanBody (above.length + 1) line carry).joined with
  | true =>
      rw [scanLine_of_joined hjoined]
      refine .joined (hiff.mp hjoined) fun t ht => ?_
      rcases List.mem_append.mp ht with ht | ht
      · exact not_isBreak_scanBody t (List.mem_of_mem_filter ht)
      · obtain ⟨hmem, hrow⟩ := List.mem_filter.mp ht
        rcases le_row_scanLines hmem with hle | ⟨hbreak, -⟩
        · simp only [decide_eq_true_eq] at hrow
          omega
        · exact hbreak
  | false =>
      have hnot : ¬ JoinsNext above line below := fun hjoins => by
        simp [hjoined] at hiff
        exact hiff hjoins
      have hbelow : ∀ lines, (scanLines (above.length + 2)
          (breakAfter (above.length + 1) line
            (scanBody (above.length + 1) line carry).carry).2 lines).1.filter
              (·.start.row = above.length + 1) = [] := by
        intro lines
        rw [List.filter_eq_nil_iff]
        intro t ht hrow
        have hpending := pending_scanBody hjoined
        rcases le_row_scanLines ht with hle | ⟨-, hstart⟩
        · simp only [decide_eq_true_eq] at hrow
          omega
        · simp [Carry.start?, breakAfter, hpending] at hstart
      have hbreak : ∀ carry, [(breakAfter (above.length + 1) line carry).1].filter
          (·.start.row = above.length + 1) = [(breakAfter (above.length + 1) line carry).1] := by
        intro carry
        simp [breakAfter]
      rw [scanLine_of_not_joined hjoined, hbelow, List.append_nil, List.filter_append, hbreak]
      refine .broken hnot (fun t ht => not_isBreak_scanBody t (List.mem_of_mem_filter ht))
        (kind_breakAfter _ _ _) rfl String.toList_ofList

/-- Every line of a source with tokens has one line break, behind the other tokens of its row,
unless it ends inside a string literal with three quotes or in a backslash that stands in code, and
then it has none; there are no other line breaks. A line break ends a logical line exactly if code
stands behind the last end of one and no bracket is open. -/
theorem tokenize_breaks (h : tokenize source = .ok tokens) :
    (∀ above line below, above ++ line :: below = Line.split source.toList →
      EndsRow (JoinsNext above line below) ⟨above.length + 1, line.body.length + 1⟩ line.terminator
        (tokens.filter (·.start.row = above.length + 1))) ∧
    (∀ b ∈ tokens, b.IsBreak →
      1 ≤ b.start.row ∧ b.start.row ≤ (Line.split source.toList).length) ∧
    (∀ before b after, before ++ b :: after = tokens → b.IsBreak →
      b.kind = if CodeOpen before ∧ bracketDepth before = 0 then .logicalNewline
        else .newline) := by
  refine ⟨fun above line below => endsRow_of_tokenize h, ?_, ?_⟩
  · obtain ⟨-, rfl⟩ := tokenize_eq_ok_iff.mp h
    intro b hb hbreak
    rcases List.mem_append.mp hb with hb | hmark
    · have hlt := row_lt_scanLines (by simp [Carry.start?]) b hb
      rcases le_row_scanLines hb with hle | ⟨hnot, -⟩
      · omega
      · exact absurd hbreak hnot
    · rw [List.mem_singleton.mp hmark] at hbreak
      cases hbreak <;> contradiction
  · obtain ⟨-, rfl⟩ := tokenize_eq_ok_iff.mp h
    have hrecords : ({} : Carry).Records [] := ⟨rfl, by simp [CodeOpen]⟩
    have hlines := predictsBreaks_scanLines 1 (Line.split source.toList) hrecords
    have hmark : PredictsBreaks ([] ++ (scanLines 1 {} (Line.split source.toList)).1)
        [endMark (Line.split source.toList).length] := by
      apply predictsBreaks_of_not_isBreak
      intro t ht
      rw [List.mem_singleton.mp ht]
      simp [endMark, Token.IsBreak]
    exact hlines.append hmark

/-- A bracket that is closed twice before a backslash, and a string literal over two rows before a
comment with a bracket. -/
theorem tokenize_breaks_joined_rows :
    ∃ tokens, tokenize "f(\n)]\\\n'''\n''' # (\n" = .ok tokens ∧
      (∀ t ∈ tokens.filter (·.start.row = 2), ¬ t.IsBreak) ∧
      ∃ b after, tokens.drop 7 = b :: after ∧ b.kind = .logicalNewline := by
  let lines : List Line := [⟨"f(".toList, ['\n']⟩, ⟨")]\\".toList, ['\n']⟩,
    ⟨"'''".toList, ['\n']⟩, ⟨"''' # (".toList, ['\n']⟩]
  have hlines : lines = Line.split "f(\n)]\\\n'''\n''' # (\n".toList := by decide +kernel
  have htokens : tokenize "f(\n)]\\\n'''\n''' # (\n" =
      .ok ((scanLines 1 {} lines).1 ++ [endMark 4]) := by
    rw [tokenize_eq_ok_iff, ← hlines]
    exact ⟨by decide +kernel, rfl⟩
  obtain ⟨hrows, -, hkinds⟩ := tokenize_breaks htokens
  have hjoins : JoinsNext (lines.take 1) ⟨")]\\".toList, ['\n']⟩ (lines.drop 2) := by
    decide +kernel
  have hrow := hrows (lines.take 1) ⟨")]\\".toList, ['\n']⟩ (lines.drop 2) hlines
  have hkind := hkinds (((scanLines 1 {} lines).1 ++ [endMark 4]).take 7)
    ⟨.logicalNewline, "\n", ⟨4, 8⟩, ⟨4, 9⟩⟩ [endMark 4] (by decide +kernel) (.inr rfl)
  refine ⟨_, htokens, hrow.not_isBreak hjoins, _, [endMark 4], by decide +kernel, hkind.trans ?_⟩
  rw [if_pos]
  decide +kernel

end Source

end TodoLint
