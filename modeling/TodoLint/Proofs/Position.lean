import Mathlib.Data.List.Basic
import TodoLint.Position
import TodoLint.Proofs.Text.Lines

/-!
How reading a text moves through its rows and columns. A place that is reached from the start
of a text is as many characters from it as were read (`Position.offset_advance`).
-/

namespace TodoLint

open Text

namespace Text.Line.EndsBefore

variable {body terminator rest : List Char}

theorem feed_notMem_dropLast (h : EndsBefore ⟨body, terminator⟩ rest) :
    '\n' ∉ (body ++ terminator).dropLast := by
  have hbody := h.feed_notMem
  rcases h.terminator_cases with rfl | rfl | ⟨rfl, -⟩ | ⟨rfl, -⟩
  · simpa using hbody
  · rw [List.dropLast_append_of_ne_nil (by simp)]
    simpa using hbody
  · rw [List.append_nil]
    exact fun hmem => hbody (List.dropLast_subset _ hmem)
  · simpa using hbody

theorem feed_notMem_of_append {a b : List Char} (h : EndsBefore ⟨body, terminator⟩ rest)
    (hab : a ++ b = body ++ terminator) (hb : b ≠ []) : '\n' ∉ a := by
  have hlast := h.feed_notMem_dropLast
  rw [← hab, List.dropLast_append_of_ne_nil hb] at hlast
  exact fun hmem => hlast (List.mem_append_left _ hmem)

end Text.Line.EndsBefore

namespace Position

/-- The place right after a character. -/
def after (p : Position) (c : Char) : Position :=
  if c = '\n' then ⟨p.row + 1, 1⟩ else ⟨p.row, p.col + 1⟩

/-- The place right after a text. -/
def advance (p : Position) (cs : List Char) : Position :=
  cs.foldl after p

/-- The order of places in a text. -/
def Before (p q : Position) : Prop :=
  p.row < q.row ∨ p.row = q.row ∧ p.col < q.col

instance (p q : Position) : Decidable (p.Before q) :=
  inferInstanceAs (Decidable (_ ∨ _))

/-- The same place, or one before it. -/
def AtOrBefore (p q : Position) : Prop :=
  p = q ∨ p.Before q

/-- The number of characters before a place in a text with the given lines. -/
def offset (lines : List Line) (p : Position) : Nat :=
  ((lines.take (p.row - 1)).flatMap Line.chars).length + (p.col - 1)

@[simp] theorem advance_nil (p : Position) : p.advance [] = p := rfl

@[simp] theorem advance_cons (p : Position) (c : Char) (cs : List Char) :
    p.advance (c :: cs) = (p.after c).advance cs := rfl

theorem advance_append (p : Position) (a b : List Char) :
    p.advance (a ++ b) = (p.advance a).advance b :=
  List.foldl_append

theorem after_of_ne {c : Char} (p : Position) (hc : c ≠ '\n') :
    p.after c = ⟨p.row, p.col + 1⟩ :=
  if_neg hc

theorem advance_of_notMem {cs : List Char} (p : Position) (hcs : '\n' ∉ cs) :
    p.advance cs = ⟨p.row, p.col + cs.length⟩ := by
  induction cs generalizing p with
  | nil => rfl
  | cons c cs ih =>
      simp only [List.mem_cons, not_or] at hcs
      rw [advance_cons, ih _ hcs.2, after_of_ne p (Ne.symm hcs.1), List.length_cons]
      simp only [Position.mk.injEq, true_and]
      omega

/-- A line feed leads to the next row. -/
theorem advance_line {body terminator rest : List Char} (p : Position)
    (h : Line.EndsBefore ⟨body, terminator⟩ rest) (hfeed : '\n' ∈ terminator) :
    p.advance (body ++ terminator) = ⟨p.row + 1, 1⟩ := by
  rw [advance_append, advance_of_notMem p h.feed_notMem]
  rcases h.terminator_cases with rfl | rfl | ⟨rfl, -⟩ | ⟨rfl, -⟩
  · rfl
  · rfl
  · simp at hfeed
  · simp at hfeed

namespace Before

theorem trans {p q r : Position} (hpq : p.Before q) (hqr : q.Before r) : p.Before r := by
  unfold Before at *
  omega

theorem trans_atOrBefore {p q r : Position} (hpq : p.Before q) (hqr : q.AtOrBefore r) :
    p.Before r := by
  rcases hqr with rfl | hqr
  · exact hpq
  · exact hpq.trans hqr

end Before

theorem before_after (p : Position) (c : Char) : p.Before (p.after c) := by
  unfold after
  split
  · exact .inl (Nat.lt_succ_self _)
  · exact .inr ⟨rfl, Nat.lt_succ_self _⟩

theorem before_nextRow (p : Position) : p.Before ⟨p.row + 1, 1⟩ :=
  .inl (Nat.lt_succ_self p.row)

theorem before_advance (p : Position) {cs : List Char} (hcs : cs ≠ []) :
    p.Before (p.advance cs) := by
  induction cs generalizing p with
  | nil => exact absurd rfl hcs
  | cons c cs ih =>
      by_cases hnil : cs = []
      · subst hnil
        exact p.before_after c
      · exact (p.before_after c).trans (ih _ hnil)

theorem offset_append_of_notMem {a : List Char} (earlier lines : List Line) (ha : '\n' ∉ a) :
    offset (earlier ++ lines) (advance ⟨earlier.length + 1, 1⟩ a) =
      (earlier.flatMap Line.chars).length + a.length := by
  rw [advance_of_notMem _ ha]
  simp [offset]

/-- The characters before a place that reading leads to, `earlier` being the lines before the
text that is read. -/
theorem offset_append_advance {text a b : List Char} {lines : List Line}
    (hlines : Line.Splits text lines) (earlier : List Line) (hab : a ++ b = text) :
    offset (earlier ++ lines) (advance ⟨earlier.length + 1, 1⟩ a) =
      (earlier.flatMap Line.chars).length + a.length := by
  induction hlines generalizing a earlier with
  | nil =>
      obtain ⟨rfl, -⟩ := List.append_eq_nil_iff.mp hab
      exact offset_append_of_notMem earlier [] (by simp)
  | @cons line rest lines hne hends hrest ih =>
      by_cases ha : '\n' ∈ a
      · -- the first line ends in `a`, and the lines after it are those of `rest`
        obtain ⟨a', rfl, hrest'⟩ : ∃ a', a = line.chars ++ a' ∧ a' ++ b = rest := by
          rcases List.append_eq_append_iff.mp hab with ⟨mid, hmid, hb⟩ | ⟨a', rfl, hrest'⟩
          · by_cases hnil : mid = []
            · exact ⟨[], by simpa [hnil] using hmid.symm, by simpa [hnil] using hb⟩
            · exact absurd ha (hends.feed_notMem_of_append hmid.symm hnil)
          · exact ⟨a', rfl, hrest'.symm⟩
        have hfeed : '\n' ∈ line.terminator := by
          by_contra hnot
          have hnil := hends.rest_eq_nil hnot
          subst hnil
          obtain ⟨rfl, rfl⟩ := List.append_eq_nil_iff.mp hrest'
          simp [Line.chars, hends.feed_notMem, hnot] at ha
        have hstep := ih (earlier ++ [line]) hrest'
        rw [advance_append, Line.chars, advance_line _ hends hfeed]
        simpa [Line.chars, Nat.add_assoc] using hstep
      · exact offset_append_of_notMem earlier (line :: lines) ha

/-- The place that reading a part of a text leads to has this part before it. -/
theorem offset_advance {text a b : List Char} {lines : List Line}
    (hlines : Line.Splits text lines) (hab : a ++ b = text) :
    offset lines (advance ⟨1, 1⟩ a) = a.length := by
  simpa using offset_append_advance hlines [] hab

end Position

end TodoLint
