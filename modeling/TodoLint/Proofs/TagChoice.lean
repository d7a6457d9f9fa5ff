import TodoLint.Proofs.TagSearch

/-!
Which tag a match takes where several fit: the first one of the list (`head?_rests_tags`).
-/

namespace TodoLint

open Text

/-- The tag stands at the start of the text in any case. -/
def beginsWith (cs : List Char) (tag : String) : Bool :=
  (tagForm tag).isPrefixOf (cs.map fold)

theorem beginsWith_iff {cs : List Char} {tag : String} :
    beginsWith cs tag = true ↔
      ∃ written, written <+: cs ∧ written.map fold = tagForm tag := by
  rw [beginsWith, List.isPrefixOf_iff_prefix, List.prefix_map_iff]
  simp only [eq_comm]

theorem mem_rests_tagPattern {tag : String} {fromTag after : List Char} :
    after ∈ (tagPattern tag).rests fromTag ↔
      ∃ written, written ++ after = fromTag ∧ written.map fold = tagForm tag := by
  simp only [Pattern.mem_rests_iff, matches_tagPattern_iff]

theorem length_of_tagForm {tag : String} {written : List Char}
    (h : written.map fold = tagForm tag) : written.length = (trim tag.toList).length := by
  simpa [tagForm] using congrArg List.length h

theorem head?_rests_tagPattern (tag : String) (fromTag : List Char) :
    ((tagPattern tag).rests fromTag).head? =
      if beginsWith fromTag tag then some (fromTag.drop (trim tag.toList).length) else none := by
  cases hhead : ((tagPattern tag).rests fromTag).head? with
  | none =>
      rw [List.head?_eq_none_iff] at hhead
      rw [if_neg]
      intro hbegins
      obtain ⟨written, ⟨after, hsplit⟩, hform⟩ := beginsWith_iff.mp hbegins
      have hmem := mem_rests_tagPattern.mpr ⟨written, hsplit, hform⟩
      rw [hhead] at hmem
      exact List.not_mem_nil hmem
  | some after =>
      obtain ⟨written, rfl, hform⟩ := mem_rests_tagPattern.mp (List.mem_of_head? hhead)
      rw [if_pos (beginsWith_iff.mpr ⟨written, List.prefix_append _ _, hform⟩),
        ← length_of_tagForm hform, List.drop_left]

theorem head?_rests_tags (tags : List String) (fromTag : List Char) :
    ((Pattern.anyOf (tags.map tagPattern)).rests fromTag).head? =
      (tags.find? (beginsWith fromTag)).map fun tag =>
        fromTag.drop (trim tag.toList).length := by
  induction tags with
  | nil => rfl
  | cons tag tags ih =>
      have hcons : (Pattern.anyOf ((tag :: tags).map tagPattern)).rests fromTag =
          (tagPattern tag).rests fromTag ++
            (Pattern.anyOf (tags.map tagPattern)).rests fromTag := rfl
      rw [hcons, List.head?_append, head?_rests_tagPattern, ih]
      cases hbegins : beginsWith fromTag tag with
      | true => simp [hbegins]
      | false => simp [hbegins]

end TodoLint
