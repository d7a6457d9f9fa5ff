import TodoLint.Proofs.Token.Indexed
import TodoLint.Proofs.Token.Stream

/-!
Lines read by numbers. The loop over a line ends because each turn leads further behind
(`exists_turns`), and reading a line by numbers always succeeds with the tokens of the line
(`readLine_eq`). `Safe` lists what holds of every number on the way.
-/

namespace TodoLint.Indexed

open Text

section Line

variable (row : Nat) (line : Line)

/-- The loop over a line from the `i`th character on, and whether a backslash continues the line. -/
def turns (i : Nat) (s : LineState) : Option (Bool × LineState) :=
  if _hi : i < line.body.length then
    match _ht : turn row line i s with
    | none => none
    | some (.next j s) => turns j s
    | some (.leave continued s) => some (continued, s)
  else some (false, s)
termination_by line.body.length - i
decreasing_by
  have := lt_of_turn row line _ _hi _ht
  omega

/-- The state behind a line, with the line break that ends it unless the next line goes on with
it. -/
def endLine (continued : Bool) (s : LineState) : Option LineState :=
  if s.carry.pending.isSome || continued then return s
  else do
    let text ← cut? (byteLength line.body) (byteLength line.chars) line.chars
    let logical := s.carry.logicalOpen && s.carry.depth == 0
    let col := (charOffsets line.body).length + 1
    let lineBreak : Token :=
      ⟨if logical then .logicalNewline else .newline, String.ofList text, ⟨row, col⟩,
        ⟨row, col + 1⟩⟩
    return ⟨s.tokens ++ [lineBreak],
      { s.carry with logicalOpen := s.carry.logicalOpen && !logical }⟩

/-- Reads a line that begins in the middle of a string literal. -/
def readOpened (opened : OpenString) (s : LineState) : Option LineState := do
  match ← tripleClose? (charOffsets line.body) opened.quote 0 with
  | some close =>
      let part ← cut? 0 (byteAt line.body close) line.body
      let (continued, s) ← turns row line close
        (s.pushCode (opened.text ++ part) opened.start ⟨row, close + 1⟩)
      endLine row line continued s
  | none =>
      let longer := { opened with text := opened.text ++ line.chars }
      return { s with carry := { s.carry with pending := some longer } }

/-- Reads a line whose start may lie in a string literal. -/
def readLine (s : LineState) : Option LineState :=
  match s.carry.pending with
  | some opened => readOpened row line opened { s with carry := { s.carry with pending := none } }
  | none => do
      let (continued, s) ← turns row line 0 s
      endLine row line continued s

end Line

section Loop

variable {row i : Nat} {line : Line} {s : LineState}

theorem turns_of_le (h : line.body.length ≤ i) : turns row line i s = some (false, s) := by
  rw [turns, dif_neg (Nat.not_lt.mpr h)]

theorem turns_of_next {j : Nat} {after : LineState} (hi : i < line.body.length)
    (h : turn row line i s = some (.next j after)) :
    turns row line i s = turns row line j after := by
  rw [turns, dif_pos hi]
  split <;> simp_all

theorem turns_of_leave {continued : Bool} {after : LineState} (hi : i < line.body.length)
    (h : turn row line i s = some (.leave continued after)) :
    turns row line i s = some (continued, after) := by
  rw [turns, dif_pos hi]
  split <;> simp_all

/-- The loop ends wherever it begins. -/
theorem turns_ne_none (row i : Nat) (line : Line) (s : LineState) : turns row line i s ≠ none := by
  fun_induction turns row line i s with
  | case1 i s hi hturn =>
      obtain ⟨t, ht, -⟩ := exists_turn row line s hi
      cases hturn.symm.trans ht
  | case2 _ _ _ _ _ _ ih => exact ih
  | case3 | case4 => simp

/-- The loop reads the rest of a line as code, and a line that is left in the middle of a string
literal or at a backslash is joined to the next one. -/
theorem exists_turns {before cs : List Char} (h : line.body = before ++ cs)
    (hpending : s.carry.pending = none) :
    let scan := scanCode row line.terminator (before.length + 1) s.carry cs
    ∃ continued, turns row line before.length s =
        some (continued, ⟨s.tokens ++ scan.tokens, scan.carry⟩) ∧
      (scan.carry.pending.isSome || continued) = scan.joined := by
  intro scan
  subst scan
  induction hn : cs.length using Nat.strong_induction_on generalizing before cs s with
  | _ n ih =>
  cases cs with
  | nil =>
      rw [List.append_nil] at h
      refine ⟨false, ?_, ?_⟩
      · rw [turns_of_le (by rw [h]), scanCode_nil, List.append_nil]
      · rw [scanCode_nil, hpending]
        rfl
  | cons c cs =>
      have hi : before.length < line.body.length := by simp [h]
      have hturn := turn_eq row s h
      cases hread : Lexeme.read c cs with
      | blank =>
          rw [hread] at hturn
          have hnext := @ih cs.length (by simp [← hn]) s (before ++ [c]) cs
            (h.trans (by simp)) hpending rfl
          rw [List.length_append] at hnext
          rw [turns_of_next hi hturn, scanCode_of_blank hread]
          exact hnext
      | comment =>
          rw [hread] at hturn
          refine ⟨false, ?_, ?_⟩
          · rw [turns_of_leave hi hturn, scanCode_of_comment hread]
          · rw [scanCode_of_comment hread, hpending]
            rfl
      | continuation =>
          rw [hread] at hturn
          refine ⟨true, ?_, ?_⟩
          · rw [turns_of_leave hi hturn, scanCode_of_continuation hread, List.append_nil]
          · rw [scanCode_of_continuation hread, Bool.or_true]
      | piece text rest =>
          rw [hread] at hturn
          have htext := Lexeme.piece_append_rest hread
          have hshorter : rest.length < n := by
            have := Lexeme.length_rest_le hread
            rw [List.length_cons] at hn
            omega
          have hnext := @ih rest.length hshorter
            ((s.bracket text).pushCode text ⟨row, before.length + 1⟩
              ⟨row, before.length + text.length + 1⟩)
            (before ++ text) rest (h.trans (by rw [← htext, List.append_assoc])) hpending rfl
          simp only [List.length_append, LineState.pushCode, List.append_assoc] at hnext
          simp only [turns_of_next hi hturn, scanCode_of_piece hread, Nat.add_right_comm _ 1]
          exact hnext
      | unclosed quote =>
          rw [hread] at hturn
          refine ⟨false, ?_, ?_⟩
          · rw [turns_of_next hi hturn, turns_of_le le_rfl, scanCode_of_unclosed hread,
              List.append_nil]
            rfl
          · rw [scanCode_of_unclosed hread]
            rfl

/-- What stands at the end of a line comes after the tokens of the line. -/
theorem endLine_eq {carry after : Carry} {tokens found all : List Token}
    {continued joined : Bool} (hbody : scanBody row line carry = ⟨found, after, joined⟩)
    (hjoined : (after.pending.isSome || continued) = joined) (hall : all = tokens ++ found) :
    endLine row line continued ⟨all, after⟩ =
      some ⟨tokens ++ (scanLine row line carry).1, (scanLine row line carry).2⟩ := by
  subst hall
  cases joined with
  | true =>
      rw [endLine, if_pos hjoined, scanLine_of_joined (by rw [hbody]), hbody]
      rfl
  | false =>
      have hcut := @cut?_end line.body line.chars line.terminator rfl
      rw [endLine, if_neg (by rw [hjoined]; decide), hcut,
        scanLine_of_not_joined (by rw [hbody]), hbody, length_charOffsets, ← List.append_assoc]
      rfl

theorem readOpened_eq {opened : OpenString} {carry : Carry} (tokens : List Token)
    (hpending : carry.pending = some opened) :
    readOpened row line opened ⟨tokens, { carry with pending := none }⟩ =
      some ⟨tokens ++ (scanLine row line carry).1, (scanLine row line carry).2⟩ := by
  have hfound := @tripleClose?_eq opened.quote line.body [] line.body 0 rfl rfl
  rw [readOpened, hfound]
  cases hclose : closeTriple opened.quote line.body with
  | none =>
      have hbody := @scanBody_of_open row line carry opened hpending hclose
      rw [scanLine_of_joined (by rw [hbody]), hbody, List.append_nil]
      rfl
  | some found =>
      obtain ⟨part, rest⟩ := found
      have hparts : line.body = part ++ rest := (closeTriple_append hclose).symm
      have hcut : cut? 0 (byteAt line.body part.length) line.body = some part := by
        simpa [byteLength] using @cut?_byteAt [] line.body part rest hparts
      let opening : LineState := LineState.pushCode ⟨tokens, { carry with pending := none }⟩
        (opened.text ++ part) opened.start ⟨row, part.length + 1⟩
      obtain ⟨continued, hturns, hjoined⟩ := @exists_turns row line opening part rest hparts rfl
      have hbody := @scanBody_of_closed row line carry opened part rest hpending hclose
      simp only [Option.map_some, Option.bind_eq_bind, Option.bind_some, Nat.zero_add, hcut]
      change (turns row line part.length opening).bind _ = _
      rw [hturns]
      exact endLine_eq hbody hjoined (List.append_assoc tokens _ _)

end Loop

/-- Reading a line by numbers succeeds and adds the tokens of the line to those read before. -/
theorem readLine_eq (row : Nat) (line : Line) (s : LineState) :
    readLine row line s =
      some ⟨s.tokens ++ (scanLine row line s.carry).1, (scanLine row line s.carry).2⟩ := by
  obtain ⟨tokens, carry⟩ := s
  cases hpending : carry.pending with
  | some opened =>
      rw [readLine, hpending]
      exact readOpened_eq tokens hpending
  | none =>
      obtain ⟨continued, hturns, hjoined⟩ := @exists_turns row line ⟨tokens, carry⟩ [] line.body
        rfl hpending
      rw [List.length_nil] at hturns
      rw [readLine, hpending]
      dsimp only
      rw [hturns]
      exact endLine_eq (scanBody_of_none hpending) hjoined rfl

/-- What keeps the reading of a line by numbers going and inside the line. Reading succeeds only if
every number that a character is looked up by stands for one, and every cut is between two places
between characters, the first of which comes first. -/
structure Safe (line : Line) : Prop where
  /-- A turn at a character succeeds and leaves the loop or leads further behind. -/
  turn_progress : ∀ row i s, i < line.body.length →
    ∃ t, turn row line i s = some t ∧ ∀ j after, t = .next j after → i < j ∧ j ≤ line.body.length
  /-- The loop ends without a failure. -/
  turns_end : ∀ row i s, turns row line i s ≠ none
  /-- The three quotes that are found stand before the number that is given. -/
  tripleClose_bounds : ∀ q start,
    ∃ found, tripleClose? (charOffsets line.body) q start = some found ∧
      ∀ close, found = some close → start + 3 ≤ close ∧ close ≤ line.body.length ∧
        (line.body.take close).drop (close - 3) = [q, q, q]
  /-- A string literal ends behind its quote and within the line. -/
  readString_bounds : ∀ row s start quoteAt, start ≤ quoteAt → quoteAt < line.body.length →
    ∃ stop after, readString row line s start quoteAt = some (stop, after) ∧
      quoteAt < stop ∧ stop ≤ line.body.length
  /-- The line is read, and its tokens are those of the line. -/
  readLine_tokens : ∀ row s, readLine row line s =
    some ⟨s.tokens ++ (scanLine row line s.carry).1, (scanLine row line s.carry).2⟩

theorem reading_safe (line : Line) : Safe line where
  turn_progress row _ s hi := exists_turn row line s hi
  turns_end row i s := turns_ne_none row i line s
  tripleClose_bounds q start := exists_tripleClose? line.body q start
  readString_bounds row s _ _ hstart hquote := exists_readString row line s hstart hquote
  readLine_tokens row s := readLine_eq row line s

end TodoLint.Indexed
