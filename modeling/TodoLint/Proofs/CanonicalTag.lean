import TodoLint.Proofs.Rule
import TodoLint.Proofs.TagPlace
import TodoLint.Proofs.Vocabulary
import TodoLint.Rule.Builtin

/-!
Whether the canonical tag is ever taken for a discouraged one. A vocabulary may list it as
discouraged with white space around it, and only then can this happen
(`never_canonical_iff`).
-/

namespace TodoLint

open Text

theorem tagForm_canonicalTag : tagForm canonicalTag = ['t', 'o', 'd', 'o'] := by
  decide

/-- Only ASCII letters fold to the letters of the canonical tag. -/
theorem sameAscii_canonicalTag_iff {written : List Char} :
    sameAscii (String.ofList written) canonicalTag = true ↔
      written.map fold = tagForm canonicalTag := by
  have hlower : canonicalTag.toList.map Char.toLower = tagForm canonicalTag := by decide
  rw [sameAscii, beq_iff_eq, String.toList_ofList, hlower]
  constructor
  · intro h
    have hfold : (written.map Char.toLower).map fold = written.map fold := by
      rw [List.map_map]
      exact List.map_congr_left fun c _ => fold_toLower c
    rw [← hfold, h]
    decide
  · intro h
    rw [← h]
    apply List.map_congr_left
    intro c hc
    have hmem : fold c ∈ tagForm canonicalTag := h ▸ List.mem_map_of_mem hc
    rw [tagForm_canonicalTag] at hmem
    simp only [List.mem_cons, List.not_mem_nil, or_false] at hmem
    rcases hmem with hfold | hfold | hfold | hfold <;>
      exact toLower_eq_fold (by simp [hfold]) (by simp [hfold]) (by simp [hfold]) (by simp [hfold])

namespace Vocabulary

variable {v : Vocabulary} {text : String} {m : TagMatch}

/-- The first discouraged tag that the canonical tag begins with is the canonical tag itself,
up to case and white space. -/
def DiscouragesCanonical (v : Vocabulary) : Prop :=
  ∃ bad, v.badTags.find? (beginsWith canonicalTag.toList) = some bad ∧
    tagForm bad = tagForm canonicalTag

theorem discouragesCanonical_of_findBad? (h : v.findBad? text = some m)
    (hm : sameAscii (String.ofList m.tag) canonicalTag = true) : v.DiscouragesCanonical := by
  rw [sameAscii_canonicalTag_iff] at hm
  obtain ⟨bad, hbad, hform⟩ := find?_of_findTag h
  refine ⟨bad, ?_, hform.symm.trans hm⟩
  -- a tag that the canonical tag begins with would have been found in its place
  have hearlier : ∀ tag, beginsWith canonicalTag.toList tag = true →
      beginsWith (m.tag ++ m.after) tag = true := by
    intro tag htag
    rw [beginsWith, List.isPrefixOf_iff_prefix] at htag ⊢
    rw [List.map_append, hm]
    exact htag.trans (List.prefix_append _ _)
  obtain ⟨-, front, back, hsplit, hfront⟩ := List.find?_eq_some_iff_append.mp hbad
  refine List.find?_eq_some_iff_append.mpr ⟨?_, front, back, hsplit, fun tag htag => ?_⟩
  · exact beginsWith_iff.mpr ⟨canonicalTag.toList, List.prefix_refl _, hm.symm.trans hform⟩
  · have hnot := hfront tag htag
    simp only [Bool.not_eq_true', Bool.eq_false_iff] at hnot ⊢
    exact fun hbegins => hnot (hearlier tag hbegins)

theorem Valid.exists_findBad? (hv : v.Valid) (h : v.DiscouragesCanonical) :
    ∃ m, v.findBad? ("#" ++ canonicalTag) = some m ∧
      sameAscii (String.ofList m.tag) canonicalTag = true := by
  obtain ⟨bad, hbad, hform⟩ := h
  have hmem : bad ∈ v.badTags := List.mem_of_find?_eq_some hbad
  have hmarked : TagMatch.Marked v.badTags ("#" ++ canonicalTag).toList
      ⟨['#'], canonicalTag.toList, []⟩ :=
    ⟨rfl, ⟨[], [], rfl, by simp⟩, bad, hmem, hform.symm⟩
  obtain ⟨m, hm, hprefix⟩ := exists_findTag
    (fun tag htag => hv.not_blank tag (List.mem_append_right _ htag)) hmarked
  refine ⟨m, hm, sameAscii_canonicalTag_iff.mpr ?_⟩
  have hafter : m.tag ++ m.after = canonicalTag.toList := by
    obtain ⟨htext, ⟨front, blanks, hbefore, -⟩, -⟩ := findTag_marked hm
    have hone : m.before = ['#'] := by
      rcases List.prefix_cons_iff.mp hprefix with hnil | ⟨rest, hrest, hnone⟩
      · simp [hnil] at hbefore
      · rw [hrest, List.prefix_nil.mp hnone]
    rw [hone] at htext
    exact (List.cons.inj htext).2
  obtain ⟨found, hfound, hwritten⟩ := find?_of_findTag hm
  rw [hafter, hbad] at hfound
  rw [hwritten, ← Option.some.inj hfound, hform]

theorem Valid.not_discouragesCanonical (hv : v.Valid)
    (h : ∀ bad ∈ v.badTags, trim bad.toList = bad.toList) : ¬ v.DiscouragesCanonical := by
  rintro ⟨bad, hbad, hform⟩
  have hmem : bad ∈ v.badTags := List.mem_of_find?_eq_some hbad
  have hlisted : listed v.badTags canonicalTag = true := by
    refine List.any_eq_true.mpr ⟨bad, hmem, ?_⟩
    rw [tagForm, h bad hmem] at hform
    rw [← String.ofList_toList (s := bad)]
    exact sameAscii_canonicalTag_iff.mpr hform
  rw [hv.canonical_not_bad] at hlisted
  cases hlisted

end Vocabulary

namespace Rule

variable {v : Vocabulary} {tokens : List Token} {f : Finding}

theorem mem_evaluate_badTag :
    f ∈ badTag.evaluate v tokens ↔ ∃ t ∈ tokens, t.kind = .comment ∧
      ∃ m, v.findBad? t.text = some m ∧
        Finding.ofToken t 1 ("use TODO instead of " ++ String.ofList m.tag ++ " for consistency") =
          f := by
  have hwords : "use " ++ canonicalTag ++ " instead of " = "use TODO instead of " := by decide
  rw [mem_evaluate_of_comment rfl, ← hwords]
  simp only [Option.map_eq_some_iff, exists_exists_and_eq_and]
  rfl

theorem evaluate_badTag_eq_nil_iff {t : Token} (hkind : t.kind = .comment) :
    badTag.evaluate v [t] = [] ↔ v.findBad? t.text = none := by
  rw [evaluate_comment_eq_nil_iff rfl hkind, Option.map_eq_none_iff]

theorem suggestion_inj {a b : String}
    (h : "use TODO instead of " ++ a ++ " for consistency" =
      "use TODO instead of " ++ b ++ " for consistency") : a = b := by
  have hchars := congrArg String.toList h
  simp only [String.toList_append] at hchars
  exact String.toList_inj.mp (List.append_cancel_left (List.append_cancel_right hchars))

theorem exists_findBad?_of_suggestion {written : String} (hf : f ∈ badTag.evaluate v tokens)
    (htext : f.text = "use TODO instead of " ++ written ++ " for consistency") :
    ∃ text m, v.findBad? text = some m ∧ String.ofList m.tag = written := by
  obtain ⟨t, -, -, m, hm, rfl⟩ := mem_evaluate_badTag.mp hf
  exact ⟨t.text, m, hm, suggestion_inj htext⟩

theorem suggestion_of_findBad? {text : String} {m : TagMatch} (hm : v.findBad? text = some m) :
    ∃ f ∈ badTag.evaluate v [.comment 1 1 text],
      f.text = "use TODO instead of " ++ String.ofList m.tag ++ " for consistency" := by
  refine ⟨_, mem_evaluate_badTag.mpr ⟨_, List.mem_singleton_self _, rfl, m, hm, rfl⟩, ?_⟩
  rfl

end Rule

/-- The canonical tag is found as a discouraged one, and is to be written instead of itself,
exactly in vocabularies that list it as discouraged with white space around it, before any other
tag it begins with. With trimmed tags this cannot happen. -/
theorem never_canonical_iff {tags badTags : List String} {v : Vocabulary}
    (hv : Vocabulary.ofTags tags badTags = .ok v) :
    ((∀ {text : String} {m : TagMatch}, v.findBad? text = some m →
        sameAscii (String.ofList m.tag) canonicalTag = false) ↔ ¬ v.DiscouragesCanonical) ∧
    ((∀ {tokens : List Token} {f : Finding}, f ∈ Rule.badTag.evaluate v tokens →
        ∀ written, sameAscii written canonicalTag = true →
          f.text ≠ "use TODO instead of " ++ written ++ " for consistency") ↔
      ¬ v.DiscouragesCanonical) ∧
    ((∀ bad ∈ badTags, trim bad.toList = bad.toList) → ¬ v.DiscouragesCanonical) := by
  obtain ⟨rfl, hvalid⟩ := Vocabulary.ofTags_eq_ok hv
  refine ⟨⟨?_, ?_⟩, ⟨?_, ?_⟩, hvalid.not_discouragesCanonical⟩
  · intro hnever hcanonical
    obtain ⟨m, hm, hsame⟩ := hvalid.exists_findBad? hcanonical
    rw [hnever hm] at hsame
    cases hsame
  · intro hcanonical text m hm
    rw [Bool.eq_false_iff]
    intro hsame
    exact hcanonical (Vocabulary.discouragesCanonical_of_findBad? hm hsame)
  · intro hnever hcanonical
    obtain ⟨m, hm, hsame⟩ := hvalid.exists_findBad? hcanonical
    obtain ⟨f, hf, htext⟩ := Rule.suggestion_of_findBad? hm
    exact hnever hf (String.ofList m.tag) hsame htext
  · intro hcanonical tokens f hf written hsame htext
    obtain ⟨text, m, hm, rfl⟩ := Rule.exists_findBad?_of_suggestion hf htext
    exact hcanonical (Vocabulary.discouragesCanonical_of_findBad? hm hsame)

/-- The discouraged tag `FIXME` may stand with a space, as it is not the canonical one. -/
theorem never_canonical_spaced_fixme :
    ¬ (⟨["TODO", "FIXME "], ["FIXME "]⟩ : Vocabulary).DiscouragesCanonical ∧
      ∀ {text : String} {m : TagMatch},
        (⟨["TODO", "FIXME "], ["FIXME "]⟩ : Vocabulary).findBad? text = some m →
          sameAscii (String.ofList m.tag) canonicalTag = false := by
  have hv : Vocabulary.ofTags ["TODO", "FIXME "] ["FIXME "] =
      .ok ⟨["TODO", "FIXME "], ["FIXME "]⟩ := rfl
  have hnot : ¬ (⟨["TODO", "FIXME "], ["FIXME "]⟩ : Vocabulary).DiscouragesCanonical := by
    rintro ⟨bad, hbad, -⟩
    have hnone : ["FIXME "].find? (beginsWith canonicalTag.toList) = none := by decide +kernel
    rw [hnone] at hbad
    cases hbad
  exact ⟨hnot, (never_canonical_iff hv).1.mpr hnot⟩

/-- With the canonical tag and a space listed as discouraged, a plain `TODO` is complained
about. -/
theorem canonical_discouraged_spaced :
    Vocabulary.ofTags ["TODO", "TODO "] ["TODO "] = .ok ⟨["TODO", "TODO "], ["TODO "]⟩ ∧
      (⟨["TODO", "TODO "], ["TODO "]⟩ : Vocabulary).findBad? "# TODO: x" =
        some ⟨['#', ' '], canonicalTag.toList, [':', ' ', 'x']⟩ ∧
      Rule.badTag.evaluate ⟨["TODO", "TODO "], ["TODO "]⟩ [.comment 1 1 "# TODO: x"] =
        [⟨1, 1, 1, "use TODO instead of TODO for consistency"⟩] := by
  refine ⟨rfl, ?_, ?_⟩
  · decide +kernel
  · decide +kernel

end TodoLint
