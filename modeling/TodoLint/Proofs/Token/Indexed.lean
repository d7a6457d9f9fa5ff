import TodoLint.Proofs.Text.Cut
import TodoLint.Proofs.Token.Lexeme
import TodoLint.Token.Stream

/-!
Lexemes read by numbers. Characters are looked up by their number in the line, and texts are cut out
between numbers of bytes, so that reading fails where a number lies outside the line or a cut has no
text. None of this happens: a turn of the loop over a line always reads a lexeme (`turn_eq`), and
the loop goes on behind it but not behind the line (`exists_turn`).
-/

namespace TodoLint

open Text

/-- The tokens read so far, and what they mean for what follows. -/
structure LineState where
  tokens : List Token
  carry : Carry
deriving DecidableEq, Repr

namespace LineState

/-- The state after one more piece of code. -/
def pushCode (s : LineState) (text : List Char) (start stop : Position) : LineState :=
  ⟨s.tokens ++ [⟨.other, String.ofList text, start, stop⟩], { s.carry with logicalOpen := true }⟩

/-- The state with the brackets of a piece of code counted. -/
def bracket (s : LineState) (piece : List Char) : LineState :=
  { s with carry := { s.carry with depth := depthAfter s.carry.depth piece } }

/-- The state inside a string literal with three quotes. -/
def openString (s : LineState) (quote : Char) (start : Position) (text : List Char) : LineState :=
  { s with carry := { s.carry with logicalOpen := true, pending := some ⟨quote, start, text⟩ } }

end LineState

namespace Indexed

/-- Whether two copies of `q` follow the `j`th character. -/
def twoFollow (chars : List (Nat × Char)) (q : Char) (j : Nat) : Option Bool :=
  if j + 2 < chars.length then do
    let (_, c) ← chars[j + 1]?
    let (_, d) ← chars[j + 2]?
    return c = q ∧ d = q
  else return false

/-- The number of the character behind the first three copies of `q` from `j` on of which the first
is not escaped, if there are any. -/
def tripleClose? (chars : List (Nat × Char)) (q : Char) (j : Nat) : Option (Option Nat) :=
  if j < chars.length then do
    let (_, c) ← chars[j]?
    if c = '\\' then tripleClose? chars q (j + 2)
    else do
      let two ← twoFollow chars q j
      if c = q ∧ two then return some (j + 3) else tripleClose? chars q (j + 1)
  else return none
termination_by chars.length - j

/-- The number of the character behind the first `q` from `j` on that is not escaped. If there is
none, a backslash at the end of the line may lead one character too far. -/
def singleClose (chars : List (Nat × Char)) (q : Char) (j : Nat) : Option Nat :=
  if j < chars.length then do
    let (_, c) ← chars[j]?
    if c = '\\' then singleClose chars q (j + 2)
    else if c = q then return j + 1
    else singleClose chars q (j + 1)
  else return j
termination_by chars.length - j

/-- The number of the character behind the word that the `j`th character stands in. -/
def wordStop (chars : List (Nat × Char)) (j : Nat) : Option Nat :=
  if j < chars.length then do
    let (_, c) ← chars[j]?
    if isWordChar c then wordStop chars (j + 1) else return j
  else return j
termination_by chars.length - j

/-- Whether the `j`th character is a quote and opens a string literal with the word before it. -/
def quoteFollows (chars : List (Nat × Char)) (word : List Char) (j : Nat) : Option Bool :=
  if j < chars.length then do
    let (_, q) ← chars[j]?
    return isQuote q && isStringPrefix word
  else return false

section Line

variable (row : Nat) (line : Line)

/-- Reads the string literal from the character `start` on, whose quote is the character
`quoteAt`, and gives the number of the character behind it on this line. -/
def readString (s : LineState) (start quoteAt : Nat) : Option (Nat × LineState) := do
  let chars := charOffsets line.body
  let (_, quote) ← chars[quoteAt]?
  let triple ← twoFollow chars quote quoteAt
  let (offset, _) ← chars[start]?
  if triple then
    match ← tripleClose? chars quote (quoteAt + 3) with
    | some close =>
        let text ← cut? offset (byteAt line.body close) line.body
        return (close, s.pushCode text ⟨row, start + 1⟩ ⟨row, close + 1⟩)
    | none =>
        let text ← cut? offset (byteLength line.chars) line.chars
        return (chars.length, s.openString quote ⟨row, start + 1⟩ text)
  else
    let close ← singleClose chars quote (quoteAt + 1)
    let stop := min close chars.length
    let text ← cut? offset (byteAt line.body stop) line.body
    return (stop, s.pushCode text ⟨row, start + 1⟩ ⟨row, stop + 1⟩)

/-- Reads the word from the character `start` on, or the string literal that the word belongs to,
and gives the number of the character behind it. -/
def readWord (s : LineState) (start : Nat) : Option (Nat × LineState) := do
  let chars := charOffsets line.body
  let (offset, _) ← chars[start]?
  let stop ← wordStop chars start
  let word ← cut? offset (byteAt line.body stop) line.body
  if ← quoteFollows chars word stop then readString row line s start stop
  else return (stop, s.pushCode word ⟨row, start + 1⟩ ⟨row, stop + 1⟩)

end Line

/-- What a turn of the loop over a line comes to. -/
inductive Turn where
  /-- The loop goes on at the `i`th character. -/
  | next (i : Nat) (s : LineState)
  /-- The loop is left, perhaps at a backslash that continues the line. -/
  | leave (continued : Bool) (s : LineState)
deriving DecidableEq, Repr

section Line

variable (row : Nat) (line : Line)

/-- The turn of the loop at the `i`th character. -/
def turn (i : Nat) (s : LineState) : Option Turn := do
  let chars := charOffsets line.body
  let (offset, c) ← chars[i]?
  if isBlank c then return .next (i + 1) s
  else if c = '#' then
    let text ← cut? offset (byteLength line.body) line.body
    let comment : Token :=
      ⟨.comment, String.ofList text, ⟨row, i + 1⟩, ⟨row, chars.length + 1⟩⟩
    return .leave false { s with tokens := s.tokens ++ [comment] }
  else if c = '\\' ∧ i + 1 = chars.length then return .leave true s
  else if isQuote c then
    let (stop, s) ← readString row line s i i
    return .next stop s
  else if isWordChar c then
    let (stop, s) ← readWord row line s i
    return .next stop s
  else
    let text ← cut? offset (byteAt line.body (i + 1)) line.body
    return .next (i + 1) ((s.bracket [c]).pushCode text ⟨row, i + 1⟩ ⟨row, i + 2⟩)

end Line

/-! ### Numbers and rests of the line -/

section Chars

variable (q : Char) {body before cs : List Char} {i : Nat}

theorem twoFollow_eq {c : Char} (h : body = before ++ c :: cs) (hi : i = before.length) :
    twoFollow (charOffsets body) q i = some (stripCopies q 2 cs).isSome := by
  match cs with
  | [] => simp [twoFollow, stripCopies, h, hi]
  | [d] => by_cases hd : d = q <;> simp [twoFollow, stripCopies, h, hi, hd]
  | d :: e :: cs =>
      have hlt : i + 2 < (charOffsets body).length := by simp [h, hi]
      have hfirst := @getElem?_charOffsets (before ++ [c]) body (i + 1) d (e :: cs) (by simp [h])
        (by simp [hi])
      have hsecond := @getElem?_charOffsets (before ++ [c, d]) body (i + 2) e cs (by simp [h])
        (by simp [hi])
      rw [twoFollow, if_pos hlt, hfirst, hsecond]
      by_cases hd : d = q <;> by_cases he : e = q <;> simp [stripCopies, hd, he]

theorem tripleClose?_eq (h : body = before ++ cs) (hi : i = before.length) :
    tripleClose? (charOffsets body) q i =
      some ((closeTriple q cs).map fun found => i + found.1.length) := by
  fun_induction closeTriple q cs generalizing before i with
  | case1 =>
      have hnot : ¬ i < (charOffsets body).length := by simp [h, hi]
      rw [tripleClose?, if_neg hnot]
      rfl
  | case2 c cs ih =>
      have hlt : i < (charOffsets body).length := by simp [h, hi]
      have hrest := @ih (before ++ ['\\', c]) (i + 2) (by simp [h]) (by simp [hi])
      rw [tripleClose?, if_pos hlt, getElem?_charOffsets h hi]
      simp only [Option.bind_eq_bind, Option.bind_some, if_true, hrest, Option.map_map]
      congr 2
      funext found
      simp only [Function.comp_apply, List.length_cons]
      omega
  | case3 c cs hne rest hstrip =>
      have hlt : i < (charOffsets body).length := by simp [h, hi]
      obtain ⟨rfl, rfl⟩ := List.cons.inj (eq_of_stripCopies hstrip)
      have hc : c ≠ '\\' := fun hc => hne _ _ hc rfl
      rw [tripleClose?, if_pos hlt, getElem?_charOffsets h hi]
      simp only [Option.bind_eq_bind, Option.bind_some, if_neg hc, twoFollow_eq c h hi]
      simp [stripCopies]
  | case4 c cs hne hstrip ih =>
      have hlt : i < (charOffsets body).length := by simp [h, hi]
      rw [tripleClose?, if_pos hlt, getElem?_charOffsets h hi]
      simp only [Option.bind_eq_bind, Option.bind_some, Option.map_map]
      by_cases hc : c = '\\'
      · obtain rfl : cs = [] := eq_nil_of_no_escape hc hne
        have hnot : ¬ i + 2 < (charOffsets body).length := by simp [h, hi]
        rw [if_pos hc, tripleClose?, if_neg hnot]
        rfl
      · have hnot : ¬ (c = q ∧ (stripCopies q 2 cs).isSome = true) := by
          rintro ⟨rfl, htwo⟩
          simp [stripCopies] at hstrip htwo
          simp [hstrip] at htwo
        have hrest := @ih (before ++ [c]) (i + 1) (by simp [h]) (by simp [hi])
        rw [if_neg hc, twoFollow_eq q h hi, Option.bind_some, if_neg hnot, hrest]
        congr 2
        funext found
        simp only [Function.comp_apply, List.length_cons]
        omega

theorem singleClose_backslash (h : body = before ++ ['\\']) (hi : i = before.length) :
    singleClose (charOffsets body) q i = some (i + 2) := by
  have hlt : i < (charOffsets body).length := by simp [h, hi]
  have hnot : ¬ i + 2 < (charOffsets body).length := by simp [h, hi]
  rw [singleClose, if_pos hlt, getElem?_charOffsets h hi]
  simp only [Option.bind_eq_bind, Option.bind_some, if_true]
  rw [singleClose, if_neg hnot]
  rfl

/-- If no `q` ends the literal, a backslash may lead behind the end, but not the least number. -/
theorem exists_singleClose (h : body = before ++ cs) (hi : i = before.length) :
    ∃ close, singleClose (charOffsets body) q i = some close ∧
      min close body.length = i + (closeSingle q cs).1.length := by
  fun_induction closeSingle q cs generalizing before i with
  | case1 =>
      have hnot : ¬ i < (charOffsets body).length := by simp [h, hi]
      refine ⟨i, ?_, by simp [h, hi]⟩
      rw [singleClose, if_neg hnot]
      rfl
  | case2 c cs inner rest hclose ih =>
      have hlt : i < (charOffsets body).length := by simp [h, hi]
      obtain ⟨close, hrest, hmin⟩ :=
        @ih (before ++ ['\\', c]) (i + 2) (by simp [h]) (by simp [hi])
      rw [singleClose, if_pos hlt, getElem?_charOffsets h hi]
      simp only [Option.bind_eq_bind, Option.bind_some, if_true]
      refine ⟨close, hrest, hmin.trans ?_⟩
      simp only [hclose, List.length_cons]
      omega
  | case3 cs hne =>
      by_cases hslash : q = '\\'
      · obtain rfl : cs = [] := eq_nil_of_no_escape hslash hne
        exact ⟨i + 2, singleClose_backslash q (hslash ▸ h) hi, by simp [h, hi]⟩
      · have hlt : i < (charOffsets body).length := by simp [h, hi]
        refine ⟨i + 1, ?_, by simp [h, hi]⟩
        rw [singleClose, if_pos hlt, getElem?_charOffsets h hi]
        simp [hslash]
  | case4 c cs hne hc inner rest hclose ih =>
      by_cases hslash : c = '\\'
      · obtain rfl : cs = [] := eq_nil_of_no_escape hslash hne
        obtain ⟨rfl, rfl⟩ := Prod.mk.inj hclose
        exact ⟨i + 2, singleClose_backslash q (hslash ▸ h) hi, by simp [h, hi]⟩
      · have hlt : i < (charOffsets body).length := by simp [h, hi]
        obtain ⟨close, hrest, hmin⟩ := @ih (before ++ [c]) (i + 1) (by simp [h]) (by simp [hi])
        rw [singleClose, if_pos hlt, getElem?_charOffsets h hi]
        simp only [Option.bind_eq_bind, Option.bind_some, if_neg hc, if_neg hslash]
        refine ⟨close, hrest, hmin.trans ?_⟩
        simp only [hclose, List.length_cons]
        omega

theorem wordStop_eq (h : body = before ++ cs) (hi : i = before.length) :
    wordStop (charOffsets body) i = some (i + (cs.takeWhile isWordChar).length) := by
  induction cs generalizing before i with
  | nil =>
      have hnot : ¬ i < (charOffsets body).length := by simp [h, hi]
      rw [wordStop, if_neg hnot]
      rfl
  | cons c cs ih =>
      have hlt : i < (charOffsets body).length := by simp [h, hi]
      have hrest := @ih (before ++ [c]) (i + 1) (by simp [h]) (by simp [hi])
      rw [wordStop, if_pos hlt, getElem?_charOffsets h hi]
      simp only [Option.bind_eq_bind, Option.bind_some]
      cases hc : isWordChar c with
      | false => simp [hc]
      | true =>
          rw [if_pos rfl, hrest, List.takeWhile_cons_of_pos hc, List.length_cons]
          congr 1
          omega

theorem quoteFollows_eq (word : List Char) (h : body = before ++ cs) (hi : i = before.length) :
    quoteFollows (charOffsets body) word i =
      some (cs.head?.any fun c => isQuote c && isStringPrefix word) := by
  cases cs with
  | nil =>
      have hnot : ¬ i < (charOffsets body).length := by simp [h, hi]
      rw [quoteFollows, if_neg hnot]
      rfl
  | cons c cs =>
      have hlt : i < (charOffsets body).length := by simp [h, hi]
      rw [quoteFollows, if_pos hlt, getElem?_charOffsets h hi]
      rfl

end Chars

/-! ### Words and string literals -/

section Pieces

variable (row : Nat) (s : LineState) {line : Line} {before word cs : List Char} {c q : Char}

/-- What reading a word or a string literal at the `i`th character gives, where the line goes on
with `rest` from there and the lexeme is known. -/
inductive Reads (row : Nat) (line : Line) (i : Nat) (rest : List Char) (s : LineState) :
    Lexeme → Option (Nat × LineState) → Prop
  | piece (text after : List Char) :
      Reads row line i rest s (.piece text after)
        (some (i + text.length, s.pushCode text ⟨row, i + 1⟩ ⟨row, i + text.length + 1⟩))
  | unclosed (quote : Char) :
      Reads row line i rest s (.unclosed quote)
        (some (line.body.length, s.openString quote ⟨row, i + 1⟩ (rest ++ line.terminator)))

theorem reads_readString (h : line.body = before ++ (word ++ q :: cs)) :
    Reads row line before.length (word ++ q :: cs) s (Lexeme.readString (word ++ [q]) q cs)
      (readString row line s before.length (before ++ word).length) := by
  have hquote : line.body = (before ++ word) ++ q :: cs := by rw [h, List.append_assoc]
  obtain ⟨d, ds, hd⟩ : ∃ d ds, word ++ q :: cs = d :: ds := List.exists_cons_of_ne_nil (by simp)
  have hstart : (charOffsets line.body)[before.length]? = some (byteLength before, d) :=
    getElem?_charOffsets (h.trans (by rw [hd])) rfl
  rw [readString, Lexeme.readString]
  simp only [getElem?_charOffsets hquote rfl, twoFollow_eq q hquote rfl, hstart,
    length_charOffsets, Option.bind_eq_bind, Option.bind_some]
  cases hstrip : stripCopies q 2 cs with
  | none =>
      let text := word ++ [q] ++ (closeSingle q cs).1
      obtain ⟨close, hclose, hmin⟩ := @exists_singleClose q line.body (before ++ word ++ [q]) cs
        ((before ++ word).length + 1) (by simp [h]) (by simp [Nat.add_assoc])
      have hstop : min close line.body.length = before.length + text.length := by
        simp only [hmin, text, List.length_append, List.length_cons, List.length_nil]
        omega
      have hbody : line.body = before ++ (text ++ (closeSingle q cs).2) := by
        simp [h, text, closeSingle_append]
      simp only [Option.isSome_none, Bool.false_eq_true, if_false, hclose, Option.bind_some,
        hstop, cut?_byteAt hbody]
      exact .piece text _
  | some inner =>
      obtain rfl : cs = q :: q :: inner := eq_of_stripCopies hstrip
      have hclose := @tripleClose?_eq q line.body (before ++ word ++ [q, q, q]) inner
        ((before ++ word).length + 3) (by simp [h]) (by simp [Nat.add_assoc])
      simp only [Option.isSome_some, if_true, hclose, Option.bind_some]
      cases hinner : closeTriple q inner with
      | none =>
          have hchars : line.chars =
              before ++ (word ++ q :: q :: q :: inner ++ line.terminator) := by
            simp [Line.chars, h]
          simp only [Option.map_none, cut?_end hchars, Option.bind_some]
          exact .unclosed q
      | some found =>
          obtain ⟨body, rest⟩ := found
          let text := word ++ [q] ++ q :: q :: body
          have hstop : (before ++ word).length + 3 + body.length = before.length + text.length := by
            simp only [text, List.length_append, List.length_cons, List.length_nil]
            omega
          have hbody : line.body = before ++ (text ++ rest) := by
            simp [h, text, ← closeTriple_append hinner]
          simp only [Option.map_some, hstop, cut?_byteAt hbody, Option.bind_some]
          exact .piece text rest

theorem reads_readWord (h : line.body = before ++ c :: cs) (hblank : ¬ isBlank c = true)
    (hchar : isWordChar c = true) :
    Reads row line before.length (c :: cs) s (Lexeme.read c cs)
      (readWord row line s before.length) := by
  have hplain : IsPlain c := isPlain_of_isWordChar hchar
  have hslash : ¬ (c = '\\' ∧ cs = []) := by
    rintro ⟨rfl, -⟩
    cases hchar
  let word := c :: cs.takeWhile isWordChar
  have hsplit : word ++ cs.dropWhile isWordChar = c :: cs :=
    congrArg (c :: ·) List.takeWhile_append_dropWhile
  have hword : line.body = before ++ (word ++ cs.dropWhile isWordChar) := by rw [h, hsplit]
  have hafter : line.body = (before ++ word) ++ cs.dropWhile isWordChar := by
    rw [hword, List.append_assoc]
  have hstop : wordStop (charOffsets line.body) before.length =
      some (before.length + word.length) := by
    rw [wordStop_eq h rfl, List.takeWhile_cons_of_pos hchar]
  rw [readWord, Lexeme.read, if_neg hblank, if_neg hplain.1, if_neg hslash,
    if_neg (by simp [hplain.2]), if_pos hchar]
  have hfollows := quoteFollows_eq word hafter List.length_append.symm
  simp only [getElem?_charOffsets h rfl, hstop, cut?_byteAt hword, Option.bind_eq_bind,
    Option.bind_some]
  cases hdrop : cs.dropWhile isWordChar with
  | nil =>
      rw [hdrop] at hfollows
      rw [hfollows]
      exact .piece word []
  | cons q rest =>
      rw [hdrop] at hfollows hword hsplit
      rw [hfollows, List.head?_cons, Option.any_some, Option.bind_some]
      dsimp only
      by_cases hopen : (isQuote q && isStringPrefix word) = true
      · rw [if_pos hopen, if_pos hopen, ← hsplit, ← List.length_append]
        exact reads_readString row s hword
      · rw [if_neg hopen, if_neg hopen]
        exact .piece word (q :: rest)

end Pieces

/-! ### Turns of the loop -/

section Turns

variable (row : Nat) (s : LineState) {line : Line} {before cs : List Char} {c : Char}

/-- What a turn comes to where a lexeme stands at the `i`th character and the line goes on with
`rest` from there. -/
def Turn.ofLexeme (row : Nat) (line : Line) (i : Nat) (rest : List Char) (s : LineState) :
    Lexeme → Turn
  | .blank => .next (i + 1) s
  | .comment =>
      .leave false { s with tokens := s.tokens ++ [.comment row (i + 1) (String.ofList rest)] }
  | .continuation => .leave true s
  | .piece text _ =>
      .next (i + text.length)
        ((s.bracket text).pushCode text ⟨row, i + 1⟩ ⟨row, i + text.length + 1⟩)
  | .unclosed quote =>
      .next line.body.length (s.openString quote ⟨row, i + 1⟩ (rest ++ line.terminator))

/-- No word and no string literal counts as a bracket. -/
theorem bracket_eq_self (hc : isQuote c = true ∨ isWordChar c = true) (text : List Char) :
    s.bracket (c :: text) = s := by
  have hnot : c ∉ ['(', '[', '{', ')', ']', '}'] := by
    intro hmem
    simp only [List.mem_cons, List.not_mem_nil, or_false] at hmem
    rcases hmem with rfl | rfl | rfl | rfl | rfl | rfl <;> rcases hc with hc | hc <;> cases hc
  have hdepth : depthAfter s.carry.depth (c :: text) = s.carry.depth := by
    unfold depthAfter
    split <;> simp_all
  rw [LineState.bracket, hdepth]

theorem Reads.next_eq {i : Nat} {result : Option (Nat × LineState)}
    (h : Reads row line i (c :: cs) s (Lexeme.read c cs) result)
    (hc : isQuote c = true ∨ isWordChar c = true) :
    (result.bind fun (stop, s) => some (Turn.next stop s)) =
      some (.ofLexeme row line i (c :: cs) s (Lexeme.read c cs)) := by
  generalize hread : Lexeme.read c cs = lexeme at h
  cases h with
  | piece text after =>
      obtain ⟨tail, rfl, -⟩ := Lexeme.read_eq_piece hread
      rw [Turn.ofLexeme, bracket_eq_self s hc]
      rfl
  | unclosed quote => rfl

/-- A turn of the loop reads the lexeme that stands there. -/
theorem turn_eq (h : line.body = before ++ c :: cs) :
    turn row line before.length s =
      some (.ofLexeme row line before.length (c :: cs) s (Lexeme.read c cs)) := by
  have hlength : line.body.length = before.length + (cs.length + 1) := by simp [h]
  have hlast : before.length + 1 = line.body.length ↔ cs = [] := by simp [hlength]
  rw [turn]
  simp only [getElem?_charOffsets h rfl, Option.bind_eq_bind, Option.bind_some,
    length_charOffsets, hlast]
  split
  · rename_i hblank
    simp [Lexeme.read, hblank, Turn.ofLexeme]
  rename_i hblank
  split
  · rename_i hhash
    have hread : Lexeme.read c cs = .comment := by
      rw [Lexeme.read, if_neg hblank, if_pos hhash]
    rw [hread, cut?_end h, hlength]
    simp only [Option.bind_some, Turn.ofLexeme, Token.comment, String.length_ofList,
      List.length_cons, Nat.add_assoc, Nat.add_comm 1]
    rfl
  rename_i hhash
  split
  · rename_i hslash
    have hread : Lexeme.read c cs = .continuation := by
      rw [Lexeme.read, if_neg hblank, if_neg hhash, if_pos hslash]
    rw [hread]
    rfl
  rename_i hslash
  split
  · rename_i hquote
    have hread : Lexeme.read c cs = Lexeme.readString [c] c cs := by
      rw [Lexeme.read, if_neg hblank, if_neg hhash, if_neg hslash, if_pos hquote]
    have hreads := @reads_readString row s line before [] cs c h
    rw [List.append_nil, List.nil_append, List.nil_append, ← hread] at hreads
    exact hreads.next_eq row s (.inl hquote)
  rename_i hquote
  split
  · rename_i hchar
    exact (reads_readWord row s h hblank hchar).next_eq row s (.inr hchar)
  · rename_i hchar
    have hread : Lexeme.read c cs = .piece [c] cs := by
      rw [Lexeme.read, if_neg hblank, if_neg hhash, if_neg hslash, if_neg hquote, if_neg hchar]
    have hcut := @cut?_byteAt before _ [c] cs h
    rw [List.length_singleton] at hcut
    rw [hread, hcut]
    rfl

end Turns

/-! ### Progress and bounds -/

section Progress

variable (row : Nat) (line : Line) (s : LineState)

/-- Three copies of a quote are found within the line and not before the character where the search
starts, which may lie behind the line. -/
theorem exists_tripleClose? (body : List Char) (q : Char) (j : Nat) :
    ∃ found, tripleClose? (charOffsets body) q j = some found ∧
      ∀ close, found = some close → j + 3 ≤ close ∧ close ≤ body.length ∧
        (body.take close).drop (close - 3) = [q, q, q] := by
  by_cases hj : j ≤ body.length
  · obtain ⟨before, cs, rfl, rfl⟩ := exists_append_of_le hj
    refine ⟨_, tripleClose?_eq q rfl rfl, fun close hclose => ?_⟩
    obtain ⟨⟨part, rest⟩, hpart, rfl⟩ := Option.map_eq_some_iff.mp hclose
    obtain rfl := closeTriple_append hpart
    obtain ⟨inner, rfl⟩ := exists_append_of_closeTriple hpart
    have hparts : before ++ (inner ++ [q, q, q] ++ rest) =
        (before ++ inner ++ [q, q, q]) ++ rest := by simp
    have hclosed : before.length + (inner ++ [q, q, q]).length =
        (before ++ inner ++ [q, q, q]).length := by simp
    have hopen : (before ++ inner ++ [q, q, q]).length - 3 = (before ++ inner).length := by
      rw [List.length_append]
      exact Nat.add_sub_cancel ..
    refine ⟨by simp, by simp, ?_⟩
    rw [hparts, hclosed, List.take_left, hopen, List.drop_left]
  · have hnot : ¬ j < (charOffsets body).length := by
      rw [length_charOffsets]
      omega
    refine ⟨none, ?_, fun close hclose => by cases hclose⟩
    rw [tripleClose?, if_neg hnot]
    rfl

/-- A string literal ends behind its quote and within the line. -/
theorem exists_readString {start quoteAt : Nat} (hstart : start ≤ quoteAt)
    (hquote : quoteAt < line.body.length) :
    ∃ stop after, readString row line s start quoteAt = some (stop, after) ∧
      quoteAt < stop ∧ stop ≤ line.body.length := by
  obtain ⟨before, cs, h, rfl⟩ := exists_append_of_le (hstart.trans hquote.le)
  have hlength : line.body.length = before.length + cs.length := by rw [h, List.length_append]
  obtain ⟨word, q, after, rfl, hword⟩ :=
    @exists_append_cons_of_lt cs (quoteAt - before.length) (by omega)
  obtain rfl : quoteAt = (before ++ word).length := by
    rw [List.length_append]
    omega
  have hreads := reads_readString row s h
  generalize hlexeme : Lexeme.readString (word ++ [q]) q after = lexeme at hreads
  generalize readString row line s before.length (before ++ word).length = result at hreads ⊢
  cases hreads with
  | piece text rest =>
      obtain ⟨body, rfl, rfl⟩ := Lexeme.readString_eq_piece hlexeme
      simp only [List.length_append, List.length_cons, List.length_nil] at hlength ⊢
      exact ⟨_, _, rfl, by omega, by omega⟩
  | unclosed quote => exact ⟨_, _, rfl, hquote, le_rfl⟩

theorem Turn.lt_of_ofLexeme {before cs : List Char} {c : Char} {j : Nat} {after : LineState}
    (h : line.body = before ++ c :: cs)
    (hnext : Turn.ofLexeme row line before.length (c :: cs) s (Lexeme.read c cs) =
      .next j after) :
    before.length < j ∧ j ≤ line.body.length := by
  have hlength : line.body.length = before.length + (cs.length + 1) := by simp [h]
  generalize hread : Lexeme.read c cs = lexeme at hnext
  cases lexeme with
  | comment | continuation => cases hnext
  | blank =>
      cases hnext
      omega
  | piece text rest =>
      cases hnext
      obtain ⟨tail, rfl, rfl⟩ := Lexeme.read_eq_piece hread
      simp only [List.length_cons, List.length_append] at hlength ⊢
      omega
  | unclosed quote =>
      cases hnext
      omega

/-- Within the line a turn succeeds, and the loop goes on further behind or is left. -/
theorem exists_turn {i : Nat} (hi : i < line.body.length) :
    ∃ t, turn row line i s = some t ∧
      ∀ j after, t = .next j after → i < j ∧ j ≤ line.body.length := by
  obtain ⟨before, c, cs, h, rfl⟩ := exists_append_cons_of_lt hi
  exact ⟨_, turn_eq row s h, fun _ _ => Turn.lt_of_ofLexeme row line s h⟩

theorem lt_of_turn {i j : Nat} {after : LineState} (hi : i < line.body.length)
    (h : turn row line i s = some (.next j after)) : i < j := by
  obtain ⟨t, hturn, hnext⟩ := exists_turn row line s hi
  exact (hnext j after (Option.some.inj (hturn.symm.trans h))).1

end Progress

end Indexed

end TodoLint
