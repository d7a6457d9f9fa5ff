import TodoLint.Text.CodePoints

/-!
White space and what is left of a text without it at its ends.
-/

namespace TodoLint.Text

/-- The code points of the Unicode property White_Space. -/
def whiteSpace : CodePoints :=
  [
    (0x09, 0x0D), (0x20, 0x20), (0x85, 0x85), (0xA0, 0xA0), (0x1680, 0x1680),
    (0x2000, 0x200A), (0x2028, 0x2029), (0x202F, 0x202F), (0x205F, 0x205F),
    (0x3000, 0x3000)
  ]

/-- A white space character. -/
def isBlank (c : Char) : Bool :=
  whiteSpace.contains c.toNat

def trimStart (cs : List Char) : List Char :=
  cs.dropWhile isBlank

def trimEnd (cs : List Char) : List Char :=
  (cs.reverse.dropWhile isBlank).reverse

/-- The text without the white space at both ends. -/
def trim (cs : List Char) : List Char :=
  trimEnd (trimStart cs)

/-- A text of white space alone, the empty text included. -/
def allBlank (cs : List Char) : Bool :=
  cs.all isBlank

theorem isBlank_of_isWhitespace {c : Char} (h : c.isWhitespace = true) : isBlank c = true := by
  simp only [Char.isWhitespace, Bool.or_eq_true, decide_eq_true_eq] at h
  rcases h with ((h | h) | h) | h <;> subst h <;> decide

theorem trimStart_eq_nil_iff (cs : List Char) : trimStart cs = [] ↔ allBlank cs = true := by
  induction cs with
  | nil => simp [trimStart, allBlank]
  | cons c cs ih =>
      rw [trimStart, allBlank, List.dropWhile_cons, List.all_cons]
      cases isBlank c with
      | true => exact ih
      | false => simp

theorem trim_eq_nil_iff (cs : List Char) : trim cs = [] ↔ allBlank cs = true := by
  rw [← trimStart_eq_nil_iff]
  constructor
  · intro h
    have hall : allBlank (trimStart cs).reverse = true := by
      rw [← trimStart_eq_nil_iff]
      simp only [trim, trimEnd, List.reverse_eq_nil_iff] at h
      exact h
    rw [trimStart_eq_nil_iff]
    cases hc : trimStart cs with
    | nil => exact (trimStart_eq_nil_iff cs).1 hc
    | cons c rest =>
        have hhead : isBlank c = true := by
          have := List.all_eq_true.1 hall c (by simp [hc])
          exact this
        have hne := List.head_dropWhile_not (p := isBlank) (l := cs)
          (by simpa [trimStart] using (by simp [hc] : trimStart cs ≠ []))
        simp [trimStart] at hc
        simp [hc, hhead] at hne
  · intro h
    simp [trim, trimEnd, h]

end TodoLint.Text
