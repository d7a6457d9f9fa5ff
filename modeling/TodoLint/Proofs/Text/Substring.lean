import Mathlib.Data.List.Infix
import TodoLint.Text.Substring

/-!
The first occurrence of one text in another: it is an occurrence, and none starts before it. Where a
text occurs in joined texts (`cons_infix_intercalate_iff`).
-/

namespace TodoLint.Text

variable {needle cs rest : List Char}

theorem append_of_afterFirst? (h : afterFirst? needle cs = some rest) :
    ∃ front, front ++ (needle ++ rest) = cs := by
  induction cs with
  | nil =>
      rw [afterFirst?] at h
      split at h
      · rename_i hneedle
        obtain rfl := Option.some.inj h
        exact ⟨[], by simpa using hneedle⟩
      · cases h
  | cons c cs ih =>
      rw [afterFirst?] at h
      split at h
      · rename_i hprefix
        obtain ⟨after, hafter⟩ := List.isPrefixOf_iff_prefix.mp hprefix
        rw [← hafter, List.drop_left] at h
        obtain rfl := Option.some.inj h
        exact ⟨[], hafter⟩
      · obtain ⟨front, rfl⟩ := ih h
        exact ⟨c :: front, rfl⟩

theorem exists_afterFirst? (needle front rest : List Char) :
    ∃ after, afterFirst? needle (front ++ (needle ++ rest)) = some after ∧ rest <:+ after := by
  induction front with
  | nil =>
      rw [List.nil_append]
      cases hsplit : needle ++ rest with
      | nil =>
          obtain ⟨rfl, rfl⟩ := List.append_eq_nil_iff.mp hsplit
          exact ⟨[], rfl, List.suffix_refl []⟩
      | cons c cs =>
          have hprefix : needle.isPrefixOf (c :: cs) = true := by
            rw [List.isPrefixOf_iff_prefix, ← hsplit]
            exact List.prefix_append needle rest
          refine ⟨rest, ?_, List.suffix_refl rest⟩
          rw [afterFirst?, if_pos hprefix, ← hsplit, List.drop_left]
  | cons c front ih =>
      rw [List.cons_append, afterFirst?]
      split
      · rename_i hprefix
        refine ⟨_, rfl, ?_⟩
        have hrest : rest <:+ c :: (front ++ (needle ++ rest)) :=
          ⟨c :: front ++ needle, by simp⟩
        apply List.suffix_of_suffix_length_le hrest (List.drop_suffix _ _)
        simp only [List.length_drop, List.length_cons, List.length_append]
        omega
      · exact ih

/-- A text is found at its first character, where this does not stand earlier. -/
theorem afterFirst?_append_of_notMem {c : Char} {front : List Char} (more rest : List Char)
    (hc : c ∉ front) : afterFirst? (c :: more) (front ++ (c :: more ++ rest)) = some rest := by
  induction front with
  | nil =>
      have hprefix : (c :: more).isPrefixOf (c :: more ++ rest) = true := by
        rw [List.isPrefixOf_iff_prefix]
        exact List.prefix_append (c :: more) rest
      rw [List.nil_append, List.cons_append, afterFirst?, ← List.cons_append, if_pos hprefix,
        List.drop_left]
  | cons d front ih =>
      have hne : c ≠ d := List.ne_of_not_mem_cons hc
      have hnot : ¬ (c :: more).isPrefixOf (d :: (front ++ (c :: more ++ rest))) = true := by
        simp [List.isPrefixOf, hne]
      rw [List.cons_append, afterFirst?, if_neg hnot]
      exact ih (List.not_mem_of_not_mem_cons hc)

theorem occurs_iff : occurs needle cs = true ↔ needle <:+: cs := by
  rw [occurs, Option.isSome_iff_exists]
  constructor
  · rintro ⟨rest, hrest⟩
    obtain ⟨front, hsplit⟩ := append_of_afterFirst? hrest
    exact ⟨front, rest, by rw [List.append_assoc, hsplit]⟩
  · rintro ⟨front, rest, rfl⟩
    obtain ⟨after, hafter, -⟩ := exists_afterFirst? needle front rest
    exact ⟨after, by rw [List.append_assoc, hafter]⟩

/-- Where `b` stands only behind the front, a text that begins with `a` and `b` can begin in the
front with the last character alone. -/
theorem infix_append_cons_iff {a b : Char} {front more : List Char} (hab : a ≠ b)
    (hb : b ∉ front) :
    a :: b :: more <:+: front ++ b :: rest ↔
      front.getLast? = some a ∧ more <+: rest ∨ a :: b :: more <:+: rest := by
  induction front with
  | nil => simp [List.infix_cons_iff, hab]
  | cons c front ih =>
      cases front with
      | nil => simp [List.infix_cons_iff, hab, eq_comm]
      | cons d front =>
          have hd : b ≠ d := by
            rintro rfl
            simp at hb
          have hnot : ¬ a :: b :: more <+: c :: (d :: front ++ b :: rest) := by simp [hd]
          rw [List.cons_append, List.infix_cons_iff, ih (List.not_mem_of_not_mem_cons hb),
            List.getLast?_cons_cons, or_iff_right hnot]

/-! ### Joined texts -/

theorem prefix_append_cons_iff {a : Char} {front more : List Char} (ha : a ∉ more) :
    more <+: front ++ a :: rest ↔ more <+: front := by
  induction front generalizing more with
  | nil =>
      rw [List.nil_append, List.prefix_cons_iff, List.prefix_nil, or_iff_left]
      rintro ⟨tail, rfl, -⟩
      simp at ha
  | cons c front ih =>
      cases more with
      | nil => simp
      | cons d more =>
          rw [List.cons_append, List.cons_prefix_cons, List.cons_prefix_cons,
            ih (List.not_mem_of_not_mem_cons ha)]

theorem cons_infix_append_cons_iff {a c : Char} {front more : List Char} (ha : a ∉ more) :
    c :: more <:+: front ++ a :: rest ↔
      c :: more <:+: front ∨ c = a ∧ more <+: rest ∨ c :: more <:+: rest := by
  induction front with
  | nil => simp [List.infix_cons_iff, List.cons_prefix_cons]
  | cons d front ih =>
      rw [List.cons_append, List.infix_cons_iff, List.cons_prefix_cons, prefix_append_cons_iff ha,
        ih, List.infix_cons_iff, List.cons_prefix_cons, or_assoc]

theorem prefix_intercalate_cons_iff {a : Char} {more : List Char} (ha : a ∉ more)
    (first : List Char) (others : List (List Char)) :
    more <+: [a].intercalate (first :: others) ↔ more <+: first := by
  cases others with
  | nil => rw [List.intercalate_singleton]
  | cons second others =>
      rw [List.intercalate_cons_cons, List.append_assoc, List.singleton_append,
        prefix_append_cons_iff ha]

/-- A text with no separator behind its first character occurs in joined texts where it occurs in
one of them, or where its first character is a separator and the rest begins the text behind it. -/
theorem cons_infix_intercalate_iff {a c : Char} {more : List Char} (ha : a ∉ more)
    (first : List Char) (others : List (List Char)) :
    c :: more <:+: [a].intercalate (first :: others) ↔
      (∃ part ∈ first :: others, c :: more <:+: part) ∨ c = a ∧ ∃ part ∈ others, more <+: part := by
  induction others generalizing first with
  | nil => simp
  | cons second others ih =>
      rw [List.intercalate_cons_cons, List.append_assoc, List.singleton_append,
        cons_infix_append_cons_iff ha, prefix_intercalate_cons_iff ha, ih second]
      simp only [List.exists_mem_cons_iff, and_or_left]
      constructor
      · rintro (hfirst | hstart | (hsecond | hpart) | hlater)
        · exact .inl (.inl hfirst)
        · exact .inr (.inl hstart)
        · exact .inl (.inr (.inl hsecond))
        · exact .inl (.inr (.inr hpart))
        · exact .inr (.inr hlater)
      · rintro ((hfirst | hsecond | hpart) | hstart | hlater)
        · exact .inl hfirst
        · exact .inr (.inr (.inl (.inl hsecond)))
        · exact .inr (.inr (.inl (.inr hpart)))
        · exact .inr (.inl hstart)
        · exact .inr (.inr (.inr hlater))

end TodoLint.Text
