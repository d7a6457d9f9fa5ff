import TodoLint.Proofs.TagSearch

/-!
Which lists of tags make a vocabulary. A discouraged tag of one has the form of a recognised
tag, so that the search for recognised tags finds it too (`Vocabulary.exists_find?`).
-/

namespace TodoLint

open Text

theorem tagForm_eq_of_sameAscii {a b : String} (h : sameAscii a b = true) :
    tagForm a = tagForm b := by
  have hlower : a.toList.map Char.toLower = b.toList.map Char.toLower := by
    simpa [sameAscii] using h
  have hform : ∀ tag : String, tagForm tag = (trim (tag.toList.map Char.toLower)).map fold := by
    intro tag
    rw [trim_map isBlank_toLower, List.map_map]
    exact List.map_congr_left fun c _ => (fold_toLower c).symm
  rw [hform a, hform b, hlower]

namespace Vocabulary

variable {tags badTags : List String} {v : Vocabulary}

/-- A vocabulary that passes all tests. -/
structure Valid (v : Vocabulary) : Prop where
  not_blank : ∀ tag ∈ v.tags ++ v.badTags, isBlankTag tag = false
  canonical_listed : listed v.tags canonicalTag = true
  canonical_not_bad : listed v.badTags canonicalTag = false
  bad_listed : ∀ tag ∈ v.badTags, listed v.tags tag = true

theorem ofTags_eq_ok (h : ofTags tags badTags = .ok v) : v = ⟨tags, badTags⟩ ∧ v.Valid := by
  unfold ofTags at h
  split at h
  · cases h
  · split at h
    · cases h
    · rename_i hblank
      split at h
      · cases h
      · rename_i hlisted
        split at h
        · cases h
        · rename_i hbad
          split at h
          · cases h
          · rename_i hunlisted
            cases h
            refine ⟨rfl, ?_, by simpa using hlisted, by simpa using hbad, ?_⟩
            · intro tag htag
              simpa using List.find?_eq_none.mp hblank tag htag
            · intro tag htag
              simpa using List.find?_eq_none.mp hunlisted tag htag

theorem Valid.marked {text : List Char} {m : TagMatch} (hv : v.Valid)
    (h : m.Marked v.badTags text) : m.Marked v.tags text := by
  obtain ⟨bad, hbad, hform⟩ := h.tag_eq
  obtain ⟨tag, htag, hsame⟩ := List.any_eq_true.mp (hv.bad_listed bad hbad)
  refine ⟨h.text_eq, h.before_eq, tag, htag, ?_⟩
  rw [hform, tagForm_eq_of_sameAscii hsame]

/-- Where a discouraged tag is found, a recognised one is found that does not start later. -/
theorem Valid.exists_find? {text : String} {m : TagMatch} (hv : v.Valid)
    (h : v.findBad? text = some m) :
    ∃ found, v.find? text = some found ∧ found.before <+: m.before :=
  exists_findTag (fun tag htag => hv.not_blank tag (List.mem_append_left _ htag))
    (hv.marked (findTag_marked h))

end Vocabulary

end TodoLint
