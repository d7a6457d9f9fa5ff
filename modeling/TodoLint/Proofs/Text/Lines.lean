import TodoLint.Text.Line

/-!
What the lines of a text are. `Line.Splits` says it without the reading of the text, line by
line, and the lines that are read fit it (`Line.splits_split`).
-/

namespace TodoLint.Text

/-- The rest of the line that a text begins with, without what ends the line: a line feed or
the end of the text, and a carriage return right before. -/
def lineRest (cs : List Char) : List Char :=
  let line := cs.takeWhile (· ≠ '\n')
  if line.getLast? = some '\r' then line.dropLast else line

namespace Line

/-- A line as it stands in a text before `rest`. -/
structure EndsBefore (line : Line) (rest : List Char) : Prop where
  feed_notMem : '\n' ∉ line.body
  terminator_mem : line.terminator ∈ [[], ['\r'], ['\n'], ['\r', '\n']]
  /-- A carriage return at the end belongs to the terminator. -/
  return_mem : line.body.getLast? = some '\r' → '\r' ∈ line.terminator
  /-- Only the last line may lack a line feed. -/
  rest_eq_nil : '\n' ∉ line.terminator → rest = []

/-- The lines of a text. -/
inductive Splits : List Char → List Line → Prop
  | nil : Splits [] []
  | cons {line : Line} {rest : List Char} {lines : List Line} (hne : line.chars ≠ [])
      (hends : line.EndsBefore rest) (hrest : Splits rest lines) :
      Splits (line.chars ++ rest) (line :: lines)

theorem close_eq (feed acc : List Char) :
    (∃ acc', acc = '\r' :: acc' ∧ close feed acc = ⟨acc'.reverse, '\r' :: feed⟩) ∨
    (acc.head? ≠ some '\r' ∧ close feed acc = ⟨acc.reverse, feed⟩) := by
  cases acc with
  | nil => exact .inr ⟨by simp, rfl⟩
  | cons c acc =>
      by_cases hc : c = '\r'
      · subst hc
        exact .inl ⟨acc, rfl, rfl⟩
      · refine .inr ⟨by simpa using hc, ?_⟩
        unfold close
        split
        · simp_all
        · rfl

theorem close_of_return_notMem {acc : List Char} (feed : List Char) (hacc : '\r' ∉ acc) :
    close feed acc = ⟨acc.reverse, feed⟩ := by
  rcases close_eq feed acc with ⟨acc', rfl, -⟩ | ⟨-, hclose⟩
  · simp at hacc
  · exact hclose

theorem endsBefore_close {feed acc rest : List Char} (hacc : '\n' ∉ acc)
    (hfeed : feed = ['\n'] ∨ feed = [] ∧ rest = []) : (close feed acc).EndsBefore rest := by
  rcases close_eq feed acc with ⟨acc, rfl, hclose⟩ | ⟨hhead, hclose⟩
  · rw [hclose]
    refine ⟨by simpa using hacc, ?_, fun _ => by simp, ?_⟩
    · rcases hfeed with rfl | ⟨rfl, -⟩ <;> simp
    · rcases hfeed with rfl | ⟨-, hrest⟩
      · simp
      · exact fun _ => hrest
  · rw [hclose]
    refine ⟨by simpa using hacc, ?_, fun hlast => ?_, ?_⟩
    · rcases hfeed with rfl | ⟨rfl, -⟩ <;> simp
    · exact absurd (by simpa using hlast) hhead
    · rcases hfeed with rfl | ⟨-, hrest⟩
      · simp
      · exact fun _ => hrest

theorem splits_splitFrom (acc cs : List Char) (hacc : '\n' ∉ acc) :
    Splits (acc.reverse ++ cs) (splitFrom acc cs) := by
  induction cs generalizing acc with
  | nil =>
      by_cases hnil : acc = []
      · simpa [hnil, splitFrom] using Splits.nil
      · have hne : (close [] acc).chars ≠ [] := by simpa [chars_close] using hnil
        have hsplits := Splits.cons hne (endsBefore_close hacc (.inr ⟨rfl, rfl⟩)) .nil
        simpa [splitFrom, hnil, chars_close] using hsplits
  | cons c cs ih =>
      by_cases hc : c = '\n'
      · have hne : (close ['\n'] acc).chars ≠ [] := by simp [chars_close]
        have hsplits := Splits.cons hne (endsBefore_close hacc (.inl rfl)) (ih [] (by simp))
        simpa [hc, splitFrom, chars_close] using hsplits
      · have hsplits := ih (c :: acc) (by simpa [hacc] using Ne.symm hc)
        simpa [splitFrom, hc] using hsplits

/-- Reading a text line by line gives its lines. -/
theorem splits_split (cs : List Char) : Splits cs (split cs) :=
  splits_splitFrom [] cs (by simp)

theorem splitFrom_of_notMem (acc : List Char) {cs : List Char} (h : '\n' ∉ cs) :
    splitFrom acc cs = splitFrom (cs.reverse ++ acc) [] := by
  induction cs generalizing acc with
  | nil => rfl
  | cons c cs ih =>
      simp only [List.mem_cons, not_or] at h
      have hrest := ih (c :: acc) h.2
      simpa [splitFrom, Ne.symm h.1] using hrest

/-- A text without line ends is one line. -/
theorem split_of_notMem {cs : List Char} (hne : cs ≠ []) (hfeed : '\n' ∉ cs)
    (hreturn : '\r' ∉ cs) : split cs = [⟨cs, []⟩] := by
  rw [split, splitFrom_of_notMem [] hfeed, List.append_nil, splitFrom,
    close_of_return_notMem [] (by simpa using hreturn)]
  simpa using hne

theorem splitFrom_append_feed (acc front cs : List Char) :
    splitFrom acc (front ++ '\n' :: cs) = splitFrom acc (front ++ ['\n']) ++ split cs := by
  induction front generalizing acc with
  | nil => rfl
  | cons c front ih =>
      by_cases hc : c = '\n'
      · simp [hc, splitFrom, ih]
      · simp [splitFrom, ih]

/-- After a line feed the lines of a text are split on their own. -/
theorem split_append {a : List Char} (ha : a = [] ∨ a.getLast? = some '\n') (b : List Char) :
    split (a ++ b) = split a ++ split b := by
  rcases ha with rfl | hlast
  · rfl
  · obtain ⟨front, rfl⟩ := List.getLast?_eq_some_iff.mp hlast
    rw [List.append_assoc, List.singleton_append]
    exact splitFrom_append_feed [] front b

theorem Splits.eq_nil {cs : List Char} {lines : List Line} (h : Splits cs lines)
    (hcs : cs = []) : lines = [] := by
  cases h with
  | nil => rfl
  | cons hne => exact absurd (List.append_eq_nil_iff.mp hcs).1 hne

namespace EndsBefore

variable {body terminator rest : List Char}

theorem of_append {part : List Char} (h : EndsBefore ⟨part ++ body, terminator⟩ rest) :
    EndsBefore ⟨body, terminator⟩ rest where
  feed_notMem := fun hmem => h.feed_notMem (List.mem_append_right _ hmem)
  terminator_mem := h.terminator_mem
  return_mem := fun hlast => h.return_mem (by simp [List.getLast?_append, hlast])
  rest_eq_nil := h.rest_eq_nil

theorem feed_notMem_front {part : List Char}
    (h : EndsBefore ⟨part ++ body, terminator⟩ rest) : '\n' ∉ part := by
  intro hmem
  exact h.feed_notMem (List.mem_append_left body hmem)

theorem tail {c : Char} (h : EndsBefore ⟨c :: body, terminator⟩ rest) :
    EndsBefore ⟨body, terminator⟩ rest :=
  @of_append _ _ _ [c] h

theorem without_body (h : EndsBefore ⟨body, terminator⟩ rest) :
    EndsBefore ⟨[], terminator⟩ rest := by
  rw [← List.append_nil body] at h
  exact h.of_append

theorem head_ne {c : Char} (h : EndsBefore ⟨c :: body, terminator⟩ rest) : c ≠ '\n' := by
  rintro rfl
  exact h.feed_notMem (by simp)

theorem terminator_cases (h : EndsBefore ⟨body, terminator⟩ rest) :
    terminator = ['\n'] ∨ terminator = ['\r', '\n'] ∨
      (terminator = [] ∧ rest = []) ∨ (terminator = ['\r'] ∧ rest = []) := by
  have hmem := h.terminator_mem
  simp only [List.mem_cons, List.not_mem_nil, or_false] at hmem
  rcases hmem with hterm | hterm | hterm | hterm
  · exact .inr (.inr (.inl ⟨hterm, h.rest_eq_nil (by simp [hterm])⟩))
  · exact .inr (.inr (.inr ⟨hterm, h.rest_eq_nil (by simp [hterm])⟩))
  · exact .inl hterm
  · exact .inr (.inl hterm)

theorem ne_feed_of_mem (h : EndsBefore ⟨body, terminator⟩ rest) :
    ∀ c ∈ body, decide (c ≠ '\n') = true := by
  intro c hc
  simpa using fun heq : c = '\n' => h.feed_notMem (heq ▸ hc)

theorem dropWhile_ne_feed (h : EndsBefore ⟨body, terminator⟩ rest) :
    (body ++ (terminator ++ rest)).dropWhile (· ≠ '\n') =
      if '\n' ∈ terminator then '\n' :: rest else [] := by
  rw [List.dropWhile_append_of_pos h.ne_feed_of_mem]
  rcases h.terminator_cases with rfl | rfl | ⟨rfl, rfl⟩ | ⟨rfl, rfl⟩ <;> simp

/-- The rest of a line is its body from that place on. -/
theorem lineRest_eq (h : EndsBefore ⟨body, terminator⟩ rest) :
    lineRest (body ++ (terminator ++ rest)) = body := by
  have hreturn : terminator = ['\n'] ∨ terminator = [] → body.getLast? ≠ some '\r' := by
    rintro (rfl | rfl) hlast <;> simpa using h.return_mem hlast
  unfold lineRest
  rw [List.takeWhile_append_of_pos h.ne_feed_of_mem]
  rcases h.terminator_cases with rfl | rfl | ⟨rfl, rfl⟩ | ⟨rfl, rfl⟩
  · simpa using fun hlast => absurd hlast (hreturn (.inl rfl))
  · simp
  · simpa using fun hlast => absurd hlast (hreturn (.inr rfl))
  · simp

end EndsBefore

end Line

end TodoLint.Text
