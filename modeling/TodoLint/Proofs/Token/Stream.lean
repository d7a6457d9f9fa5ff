import TodoLint.Token.Stream

/-!
The reading of a source opened up: what each lexeme gives, what a line gives with and without a
line break at its end, how lines are read one part after the other, and when a source has tokens.
-/

namespace TodoLint

open Text

/-- A token of one of the two kinds of line breaks. -/
def Token.IsBreak (t : Token) : Prop :=
  t.kind = .newline ∨ t.kind = .logicalNewline

instance (t : Token) : Decidable t.IsBreak :=
  inferInstanceAs (Decidable (_ ∨ _))

section Code

variable {row col : Nat} {terminator : List Char} {carry : Carry} {c : Char} {cs : List Char}

theorem scanCode_nil : scanCode row terminator col carry [] = ⟨[], carry, false⟩ := by
  rw [scanCode]

theorem scanCode_of_blank (h : Lexeme.read c cs = .blank) :
    scanCode row terminator col carry (c :: cs) =
      scanCode row terminator (col + 1) carry cs := by
  rw [scanCode]
  split <;> simp_all

theorem scanCode_of_blanks {blanks : List Char} (h : ∀ c ∈ blanks, isBlank c = true) :
    scanCode row terminator col carry (blanks ++ cs) =
      scanCode row terminator (col + blanks.length) carry cs := by
  induction blanks generalizing col with
  | nil => rfl
  | cons c blanks ih =>
      have hread : Lexeme.read c (blanks ++ cs) = .blank := by
        simp [Lexeme.read, h c List.mem_cons_self]
      have hrest := @ih (col + 1) fun d hd => h d (List.mem_cons_of_mem c hd)
      rw [List.cons_append, scanCode_of_blank hread, hrest, List.length_cons]
      congr 1
      omega

theorem scanCode_of_comment (h : Lexeme.read c cs = .comment) :
    scanCode row terminator col carry (c :: cs) =
      ⟨[.comment row col (String.ofList (c :: cs))], carry, false⟩ := by
  rw [scanCode]
  split <;> simp_all

theorem scanCode_of_continuation (h : Lexeme.read c cs = .continuation) :
    scanCode row terminator col carry (c :: cs) = ⟨[], carry, true⟩ := by
  rw [scanCode]
  split <;> simp_all

theorem scanCode_of_piece {text rest : List Char} (h : Lexeme.read c cs = .piece text rest) :
    scanCode row terminator col carry (c :: cs) =
      let next := scanCode row terminator (col + text.length)
        { carry with depth := depthAfter carry.depth text, logicalOpen := true } rest
      { next with
        tokens := ⟨.other, String.ofList text, ⟨row, col⟩, ⟨row, col + text.length⟩⟩ ::
          next.tokens } := by
  rw [scanCode]
  split <;> simp_all

theorem scanCode_of_unclosed {quote : Char} (h : Lexeme.read c cs = .unclosed quote) :
    scanCode row terminator col carry (c :: cs) =
      ⟨[], { carry with
        logicalOpen := true
        pending := some ⟨quote, ⟨row, col⟩, c :: cs ++ terminator⟩ }, true⟩ := by
  rw [scanCode]
  split <;> simp_all

end Code

section

variable {row : Nat} {line : Line} {carry : Carry}

theorem scanBody_of_none (h : carry.pending = none) :
    scanBody row line carry = scanCode row line.terminator 1 carry line.body := by
  simp [scanBody, h]

theorem scanBody_of_closed {opened : OpenString} {part rest : List Char}
    (h : carry.pending = some opened)
    (hclose : closeTriple opened.quote line.body = some (part, rest)) :
    scanBody row line carry =
      let next := scanCode row line.terminator (part.length + 1)
        { carry with logicalOpen := true, pending := none } rest
      { next with
        tokens := ⟨.other, String.ofList (opened.text ++ part), opened.start,
          ⟨row, part.length + 1⟩⟩ :: next.tokens } := by
  simp [scanBody, h, hclose]

theorem scanBody_of_open {opened : OpenString} (h : carry.pending = some opened)
    (hclose : closeTriple opened.quote line.body = none) :
    scanBody row line carry =
      ⟨[], { carry with pending := some { opened with text := opened.text ++ line.chars } },
        true⟩ := by
  simp [scanBody, h, hclose]

theorem scanLine_of_joined (h : (scanBody row line carry).joined = true) :
    scanLine row line carry =
      ((scanBody row line carry).tokens, (scanBody row line carry).carry) := by
  simp [scanLine, h]

theorem scanLine_of_not_joined (h : (scanBody row line carry).joined = false) :
    scanLine row line carry =
      ((scanBody row line carry).tokens ++
          [(breakAfter row line (scanBody row line carry).carry).1],
        (breakAfter row line (scanBody row line carry).carry).2) := by
  simp [scanLine, h]

theorem kind_breakAfter (row : Nat) (line : Line) (carry : Carry) :
    (breakAfter row line carry).1.IsBreak := by
  unfold breakAfter
  simp only
  split
  · exact .inr rfl
  · exact .inl rfl

end

theorem scanLines_cons (row : Nat) (carry : Carry) (line : Line) (lines : List Line) :
    scanLines row carry (line :: lines) =
      ((scanLine row line carry).1 ++
          (scanLines (row + 1) (scanLine row line carry).2 lines).1,
        (scanLines (row + 1) (scanLine row line carry).2 lines).2) := rfl

theorem scanLines_append (row : Nat) (carry : Carry) (lines others : List Line) :
    scanLines row carry (lines ++ others) =
      ((scanLines row carry lines).1 ++
          (scanLines (row + lines.length) (scanLines row carry lines).2 others).1,
        (scanLines (row + lines.length) (scanLines row carry lines).2 others).2) := by
  induction lines generalizing row carry with
  | nil => rfl
  | cons line lines ih =>
      have hrow : row + (line :: lines).length = row + 1 + lines.length := by
        rw [List.length_cons]
        omega
      rw [List.cons_append, scanLines_cons, scanLines_cons, ih, hrow, List.append_assoc]

theorem tokenize_eq_ok_iff {source : String} {tokens : List Token} :
    tokenize source = .ok tokens ↔
      (scanLines 1 {} (Line.split source.toList)).2.pending = none ∧
        (scanLines 1 {} (Line.split source.toList)).1 ++
          [endMark (Line.split source.toList).length] = tokens := by
  cases hpending : (scanLines 1 {} (Line.split source.toList)).2.pending with
  | none => simp [tokenize, hpending]
  | some opened => simp [tokenize, hpending]

theorem tokenize_eq_error_iff {source : String} {fault : UnclosedString} :
    tokenize source = .error fault ↔
      ∃ opened, (scanLines 1 {} (Line.split source.toList)).2.pending = some opened ∧
        ⟨opened.start.row⟩ = fault := by
  cases hpending : (scanLines 1 {} (Line.split source.toList)).2.pending with
  | none => simp [tokenize, hpending]
  | some opened => simp [tokenize, hpending]

end TodoLint
