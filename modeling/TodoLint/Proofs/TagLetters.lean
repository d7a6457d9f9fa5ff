import TodoLint.Proofs.TagPlace

/-!
The letters of a text in the search for a tag. The search looks at letters up to case alone, so a
tag that is found can be written in other letters and is found again, with the same text around it
(`findTag_withTag`).
-/

namespace TodoLint

open Text

namespace Text

theorem target_after_hash : ∀ m ∈ simpleFolding, '#'.toNat < m.target := by
  decide +kernel

theorem fold_eq_hash_iff {c : Char} : fold c = '#' ↔ c = '#' := by
  constructor
  · intro hfold
    cases hfind : simpleFolding.find? c.toNat with
    | none => simpa [fold, StrideMap.apply, hfind] using hfold
    | some image =>
        exfalso
        obtain ⟨m, hm, -, -, rfl⟩ := StrideMap.exists_of_find? hfind
        have htarget := target_after_hash m hm
        have himage : (Char.ofNat (m.target + (c.toNat - m.run.first))).toNat = '#'.toNat := by
          rw [← hfold, fold, StrideMap.apply, hfind, Option.map_some, Option.getD_some]
        have hpositive : 0 < '#'.toNat := by decide
        rcases toNat_ofNat_eq_or (m.target + (c.toNat - m.run.first)) with htoNat | htoNat
        · omega
        · omega
  · rintro rfl
    decide +kernel

end Text

namespace TagMatch

/-- The text in which the tag is found. -/
def text (m : TagMatch) : List Char :=
  m.before ++ (m.tag ++ m.after)

/-- The match with the tag written in another way. -/
def withTag (m : TagMatch) (written : List Char) : TagMatch :=
  { m with tag := written }

theorem eq_of_text_eq {m n : TagMatch} (h : m.text = n.text)
    (hbefore : m.before.length = n.before.length) (htag : m.tag.length = n.tag.length) : m = n := by
  obtain ⟨hfront, hrest⟩ := List.append_inj h hbefore
  obtain ⟨hwritten, hback⟩ := List.append_inj hrest htag
  cases m
  cases n
  simp_all

end TagMatch

section Search

variable {tags : List String} {cs ds written : List Char} {p : Nat} {m : TagMatch}

theorem text_matchAt (cs : List Char) (p : Nat) (tag : String) : (matchAt cs p tag).text = cs := by
  simp [TagMatch.text, matchAt, afterMark, trimStart]

theorem map_fold_afterMark (cs : List Char) (p : Nat) :
    (afterMark cs p).map fold = trimStart ((cs.map fold).drop (p + 1)) := by
  rw [afterMark, ← trimStart_map isBlank_fold, List.map_drop]

theorem getElem?_eq_hash_iff : cs[p]? = some '#' ↔ (cs.map fold)[p]? = some '#' := by
  simp [List.getElem?_map, Option.map_eq_some_iff, fold_eq_hash_iff]

theorem beginsWith_afterMark_congr (h : cs.map fold = ds.map fold) :
    beginsWith (afterMark cs p) = beginsWith (afterMark ds p) := by
  funext tag
  rw [beginsWith, beginsWith, map_fold_afterMark, map_fold_afterMark, h]

/-- Tags stand at the same places in texts that differ in the case of letters alone. -/
theorem tagAt_congr_fold (h : cs.map fold = ds.map fold) : TagAt tags cs p ↔ TagAt tags ds p := by
  rw [TagAt, TagAt, beginsWith_afterMark_congr h, getElem?_eq_hash_iff, h, ← getElem?_eq_hash_iff]

theorem isSome_findTag_congr_fold (h : cs.map fold = ds.map fold) :
    (findTag tags cs).isSome = (findTag tags ds).isSome := by
  have hplaces : ∀ p, TagAt tags cs p ↔ TagAt tags ds p := fun p => tagAt_congr_fold h
  rcases findTag_cases_of_tagAt hplaces with
    ⟨hnone, hnone'⟩ | ⟨p, tag, other, -, -, hfound, hfound'⟩
  · rw [hnone, hnone']
  · rw [hfound, hfound']
    rfl

theorem length_matchAt_congr (h : cs.map fold = ds.map fold) (p : Nat) (tag : String) :
    (matchAt cs p tag).before.length = (matchAt ds p tag).before.length ∧
      (matchAt cs p tag).tag.length = (matchAt ds p tag).tag.length := by
  have hblank : isBlank ∘ fold = isBlank := funext isBlank_fold
  have hlength : ∀ {as bs : List Char}, as.map fold = bs.map fold → as.length = bs.length := by
    intro as bs hsame
    simpa using congrArg List.length hsame
  have hfront : (cs.take (p + 1)).length = (ds.take (p + 1)).length :=
    hlength (by rw [List.map_take, h, List.map_take])
  have hwhite : ((cs.drop (p + 1)).takeWhile isBlank).length =
      ((ds.drop (p + 1)).takeWhile isBlank).length := by
    apply hlength
    rw [← hblank, ← List.takeWhile_map, ← List.takeWhile_map, List.map_drop, h, List.map_drop]
  have hmark : (afterMark cs p).length = (afterMark ds p).length :=
    hlength (by rw [map_fold_afterMark, h, map_fold_afterMark])
  constructor
  · simp only [matchAt, List.length_append, hfront, hwhite]
  · simp only [matchAt, List.length_take, hmark]

/-- A tag that is written in other letters is found where it was found before. -/
theorem findTag_withTag (h : findTag tags cs = some m) (hfold : written.map fold = m.tag.map fold) :
    findTag tags (m.withTag written).text = some (m.withTag written) := by
  have hcs : m.text = cs := (findTag_marked h).text_eq
  have hsame : cs.map fold = (m.withTag written).text.map fold := by
    rw [← hcs]
    simp [TagMatch.text, TagMatch.withTag, hfold]
  have hplaces : ∀ p, TagAt tags cs p ↔ TagAt tags (m.withTag written).text p :=
    fun p => tagAt_congr_fold hsame
  rcases findTag_cases_of_tagAt hplaces with
    ⟨hnone, -⟩ | ⟨p, tag, other, htag, hother, hfound, hfound'⟩
  · rw [hnone] at h
    cases h
  · obtain rfl := Option.some.inj (h.symm.trans hfound)
    rw [← beginsWith_afterMark_congr hsame, htag] at hother
    obtain rfl := Option.some.inj hother
    obtain ⟨hbefore, htagLength⟩ := length_matchAt_congr hsame p tag
    have hlength : written.length = (matchAt cs p tag).tag.length := by
      simpa using congrArg List.length hfold
    rw [hfound']
    exact congrArg some (TagMatch.eq_of_text_eq (text_matchAt _ p tag) hbefore.symm
      (htagLength.symm.trans hlength.symm))

end Search

end TodoLint
