import TodoLint.Text.Bytes

/-!
Parts of a text by numbers. The characters of a text are listed with the bytes before them, and a
part is cut out between two numbers of bytes. A cut fails between places in the wrong order, behind
the end of the text or inside a character, and nowhere else (`cut?_eq_some_iff`).
-/

namespace TodoLint.Text

/-- The characters of a text that stands after `offset` bytes, each with the number of bytes before
it. -/
def charOffsetsFrom (offset : Nat) : List Char → List (Nat × Char)
  | [] => []
  | c :: cs => (offset, c) :: charOffsetsFrom (offset + c.utf8Size) cs

def charOffsets (cs : List Char) : List (Nat × Char) :=
  charOffsetsFrom 0 cs

/-- The number of bytes before the `i`th character, or in the whole text if it has no such
character. -/
def byteAt (cs : List Char) (i : Nat) : Nat :=
  ((charOffsets cs)[i]?.map (·.1)).getD (byteLength cs)

/-- The part of a text between two places, the first of which comes first. -/
def cut? (start stop : Nat) (cs : List Char) : Option (List Char) :=
  if start ≤ stop then byteSlice? start stop cs else none

variable {before cs part : List Char}

theorem exists_append_of_le {i : Nat} (h : i ≤ cs.length) :
    ∃ before after, cs = before ++ after ∧ i = before.length :=
  ⟨cs.take i, cs.drop i, (List.take_append_drop i cs).symm, (List.length_take_of_le h).symm⟩

theorem exists_append_cons_of_lt {i : Nat} (h : i < cs.length) :
    ∃ before c after, cs = before ++ c :: after ∧ i = before.length := by
  obtain ⟨before, after, rfl, rfl⟩ := exists_append_of_le (Nat.le_of_lt h)
  cases after with
  | nil => simp at h
  | cons c after => exact ⟨before, c, after, rfl, rfl⟩

theorem getElem?_charOffsetsFrom (offset : Nat) (cs : List Char) (i : Nat) :
    (charOffsetsFrom offset cs)[i]? = cs[i]?.map fun c => (offset + byteLength (cs.take i), c) := by
  induction cs generalizing offset i with
  | nil => rfl
  | cons c cs ih =>
      cases i with
      | zero => rfl
      | succ i =>
          rw [charOffsetsFrom, List.getElem?_cons_succ, ih, List.getElem?_cons_succ,
            List.take_succ_cons, byteLength, Nat.add_assoc]

@[simp] theorem length_charOffsets (cs : List Char) : (charOffsets cs).length = cs.length := by
  have hfrom : ∀ offset, (charOffsetsFrom offset cs).length = cs.length := by
    induction cs with
    | nil => exact fun _ => rfl
    | cons c cs ih => exact fun offset => congrArg (· + 1) (ih (offset + c.utf8Size))
  exact hfrom 0

/-- A character that stands after `before` has the bytes of `before` in front of it. -/
theorem getElem?_charOffsets {i : Nat} {c : Char} {after : List Char}
    (h : cs = before ++ c :: after) (hi : i = before.length) :
    (charOffsets cs)[i]? = some (byteLength before, c) := by
  simp [charOffsets, getElem?_charOffsetsFrom, h, hi]

theorem byteAt_append (before cs : List Char) :
    byteAt (before ++ cs) before.length = byteLength before := by
  cases cs with
  | nil => simp [byteAt, charOffsets, getElem?_charOffsetsFrom]
  | cons c cs =>
      rw [byteAt, getElem?_charOffsets rfl rfl]
      rfl

/-- A cut succeeds where both places stand between characters of the text, in their order. -/
theorem cut?_eq_some_iff {start stop : Nat} :
    cut? start stop cs = some part ↔
      ∃ before after, before ++ (part ++ after) = cs ∧ byteLength before = start ∧
        byteLength (before ++ part) = stop := by
  constructor
  · intro h
    unfold cut? at h
    split at h
    case isFalse => cases h
    case isTrue hle =>
      simp only [byteSlice?, Option.bind_eq_bind, Option.bind_eq_some_iff, Prod.exists,
        Option.pure_def, Option.some.injEq] at h
      obtain ⟨before, rest, hbefore, part', after, hpart, rfl⟩ := h
      obtain ⟨rfl, hstart⟩ := append_of_splitAtByte? hbefore
      obtain ⟨rfl, hlength⟩ := append_of_splitAtByte? hpart
      refine ⟨before, after, rfl, hstart, ?_⟩
      rw [byteLength_append, hstart, hlength]
      omega
  · rintro ⟨before, after, rfl, rfl, rfl⟩
    have hlength : byteLength (before ++ part) - byteLength before = byteLength part := by
      rw [byteLength_append, Nat.add_sub_cancel_left]
    have hle : byteLength before ≤ byteLength (before ++ part) := by
      rw [byteLength_append]
      exact Nat.le_add_right _ _
    rw [cut?, if_pos hle, byteSlice?, splitAtByte?_append, hlength]
    simp [splitAtByte?_append]

example : cut? 0 1 ['é'] = none := by decide

/-- A part is cut out up to the character behind it. -/
theorem cut?_byteAt {after : List Char} (h : cs = before ++ (part ++ after)) :
    cut? (byteLength before) (byteAt cs (before.length + part.length)) cs = some part := by
  have hstop := byteAt_append (before ++ part) after
  rw [List.append_assoc, ← h, List.length_append] at hstop
  exact cut?_eq_some_iff.mpr ⟨before, after, h.symm, rfl, hstop.symm⟩

/-- A part at the end of the text is cut out up to there. -/
theorem cut?_end (h : cs = before ++ part) :
    cut? (byteLength before) (byteLength cs) cs = some part :=
  cut?_eq_some_iff.mpr ⟨before, [], by rw [List.append_nil, h], rfl, by rw [h]⟩

end TodoLint.Text
