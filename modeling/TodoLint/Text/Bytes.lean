/-!
Places in a text that are given by a number of bytes. A number of bytes that ends inside a
character is no place in the text.
-/

namespace TodoLint.Text

def byteLength : List Char → Nat
  | [] => 0
  | c :: cs => c.utf8Size + byteLength cs

/-- The two parts of a text, the first of so many bytes. -/
def splitAtByte? : Nat → List Char → Option (List Char × List Char)
  | 0, cs => some ([], cs)
  | _ + 1, [] => none
  | n + 1, c :: cs =>
      if c.utf8Size ≤ n + 1 then
        (splitAtByte? (n + 1 - c.utf8Size) cs).map fun (first, second) => (c :: first, second)
      else none

/-- The part of a text between two places. -/
def byteSlice? (start stop : Nat) (cs : List Char) : Option (List Char) := do
  let (_, rest) ← splitAtByte? start cs
  let (part, _) ← splitAtByte? (stop - start) rest
  return part

theorem byteLength_append (first second : List Char) :
    byteLength (first ++ second) = byteLength first + byteLength second := by
  induction first with
  | nil => simp [byteLength]
  | cons c first ih => simp [byteLength, ih, Nat.add_assoc]

/-- Every place between two parts of a text is found by the bytes of the first part. -/
theorem splitAtByte?_append (first second : List Char) :
    splitAtByte? (byteLength first) (first ++ second) = some (first, second) := by
  induction first with
  | nil => simp [byteLength, splitAtByte?]
  | cons c first ih =>
      obtain ⟨n, hn⟩ : ∃ n, byteLength (c :: first) = n + 1 :=
        ⟨byteLength (c :: first) - 1, by have := c.utf8Size_pos; simp [byteLength]; omega⟩
      have hrest : n + 1 - c.utf8Size = byteLength first := by
        rw [← hn, byteLength, Nat.add_sub_cancel_left]
      have hle : c.utf8Size ≤ n + 1 := by rw [← hn, byteLength]; omega
      rw [hn, List.cons_append, splitAtByte?, if_pos hle, hrest, ih]
      rfl

/-- The parts of a text make it up, and the first has the bytes asked for. -/
theorem append_of_splitAtByte? {n : Nat} {cs first second : List Char}
    (h : splitAtByte? n cs = some (first, second)) :
    first ++ second = cs ∧ byteLength first = n := by
  induction cs generalizing n first with
  | nil =>
      cases n with
      | zero => simp [splitAtByte?] at h; simp [h.1, h.2, byteLength]
      | succ n => simp [splitAtByte?] at h
  | cons c cs ih =>
      cases n with
      | zero => simp [splitAtByte?] at h; simp [h.1, h.2, byteLength]
      | succ n =>
          rw [splitAtByte?] at h
          split at h
          · obtain ⟨⟨rest, second'⟩, hrest, heq⟩ := Option.map_eq_some_iff.1 h
            simp only [Prod.mk.injEq] at heq
            obtain ⟨rfl, rfl⟩ := heq
            obtain ⟨happend, hlength⟩ := ih hrest
            refine ⟨by rw [List.cons_append, happend], ?_⟩
            rw [byteLength, hlength]
            omega
          · simp at h

end TodoLint.Text
