import TodoLint.Proofs.TagChoice
import TodoLint.Text.Bytes

/-!
Where a tag is found. The search for a tag takes the first place of the text with a `#`, white space
and a tag, all the white space there is, and the first tag of the list that stands behind it
(`finds_first_tag`).
-/

namespace TodoLint

open Text

/-- The text after a place and the white space behind it. -/
def afterMark (cs : List Char) (p : Nat) : List Char :=
  trimStart (cs.drop (p + 1))

/-- At the place stands a `#`, and behind the white space after it one of the tags. -/
def TagAt (tags : List String) (cs : List Char) (p : Nat) : Prop :=
  cs[p]? = some '#' ∧ ∃ tag ∈ tags, beginsWith (afterMark cs p) tag = true

instance (tags : List String) (cs : List Char) : DecidablePred (TagAt tags cs) :=
  fun _ => inferInstanceAs (Decidable (_ ∧ _))

/-- The match of a tag at a place. The tag is as long as in the list, without the white space
around it there. -/
def matchAt (cs : List Char) (p : Nat) (tag : String) : TagMatch :=
  let letters := (trim tag.toList).length
  ⟨cs.take (p + 1) ++ (cs.drop (p + 1)).takeWhile isBlank, (afterMark cs p).take letters,
    (afterMark cs p).drop letters⟩

/-- The match at the first place of a text with a tag, of the first tag there. -/
def firstTag? (tags : List String) (cs : List Char) : Option TagMatch := do
  let p ← (List.range cs.length).find? (TagAt tags cs)
  let tag ← tags.find? (beginsWith (afterMark cs p))
  return matchAt cs p tag

section Place

variable {tags : List String} {cs : List Char} {c : Char} {p : Nat} {tag : String}

/-! ### The start of a text -/

theorem head?_runRests (accepts : Char → Bool) (cs : List Char) :
    (Pattern.runRests accepts 0 none cs).head? = some (cs.dropWhile accepts) := by
  induction cs with
  | nil => rfl
  | cons c cs ih =>
      cases hc : accepts c with
      | true => simp [Pattern.runRests, hc, ih]
      | false => simp [Pattern.runRests, hc]

theorem tagAtStart_of_ne_hash (hc : c ≠ '#') : tagAtStart tags (c :: cs) = none := by
  simp [tagAtStart, tagMark, Pattern.rests, hc]

theorem beginsWith_trimStart (h : beginsWith cs tag = true) :
    beginsWith (trimStart cs) tag = true := by
  obtain ⟨written, hprefix, hform⟩ := beginsWith_iff.mp h
  cases cs with
  | nil => exact h
  | cons c cs =>
      cases hc : isBlank c with
      | false => simpa [trimStart, hc] using h
      | true =>
          -- Only a blank tag stands before white space, and that stands anywhere.
          cases written with
          | nil => exact beginsWith_iff.mpr ⟨[], List.nil_prefix, hform⟩
          | cons d written =>
              exfalso
              obtain rfl : d = c := (List.cons_prefix_cons.mp hprefix).1
              rw [tagForm] at hform
              cases htrim : trim tag.toList with
              | nil => simp [htrim] at hform
              | cons letter letters =>
                  rw [htrim, List.map_cons, List.map_cons] at hform
                  have hletter := isBlank_of_trim_eq_cons htrim
                  rw [← isBlank_fold, ← (List.cons.inj hform).1, isBlank_fold, hc] at hletter
                  cases hletter

theorem tagAtStart_hash (tags : List String) (cs : List Char) :
    tagAtStart tags ('#' :: cs) = (tags.find? (beginsWith (trimStart cs))).map fun tag =>
      (trimStart cs, (trimStart cs).drop (trim tag.toList).length) := by
  have hrests : tagMark.rests ('#' :: cs) = Pattern.runRests isBlank 0 none cs := by
    simp [tagMark, Pattern.rests]
  obtain ⟨others, hothers⟩ := List.head?_eq_some_iff.mp (head?_runRests isBlank cs)
  rw [tagAtStart, hrests]
  simp only [head?_rests_tags, Option.map_map]
  cases hfind : tags.find? (beginsWith (trimStart cs)) with
  | some tag =>
      -- The search skips all the white space before it tries to skip less.
      rw [hothers, List.findSome?_cons, ← trimStart, hfind]
      rfl
  | none =>
      rw [Option.map_none, List.findSome?_eq_none_iff]
      intro fromTag hmem
      obtain ⟨blanks, rfl, hmatches⟩ := Pattern.mem_runRests.mp hmem
      have hblank := Pattern.matches_run_all_iff.mp hmatches
      rw [trimStart, List.dropWhile_append_of_pos hblank, ← trimStart, List.find?_eq_none] at hfind
      rw [Option.map_eq_none_iff, List.find?_eq_none]
      intro tag htag hbegins
      exact hfind tag htag (beginsWith_trimStart hbegins)

/-! ### Places -/

theorem tagAt_succ : TagAt tags (c :: cs) (p + 1) ↔ TagAt tags cs p := Iff.rfl

theorem matchAt_succ (c : Char) (cs : List Char) (p : Nat) (tag : String) :
    matchAt (c :: cs) (p + 1) tag = (matchAt cs p tag).afterChar c := rfl

theorem tagAt_zero_iff : TagAt tags (c :: cs) 0 ↔
    c = '#' ∧ ∃ tag, tags.find? (beginsWith (trimStart cs)) = some tag := by
  simp [TagAt, afterMark, ← Option.isSome_iff_exists]

theorem findTag_of_find? (h : tags.find? (beginsWith (trimStart cs)) = some tag) :
    findTag tags ('#' :: cs) = some (matchAt ('#' :: cs) 0 tag) := by
  have hstart := tagAtStart_hash tags cs
  have hmark := take_length_sub ('#' :: cs.takeWhile isBlank) (trimStart cs)
  have hwritten := take_length_sub ((trimStart cs).take (trim tag.toList).length)
    ((trimStart cs).drop (trim tag.toList).length)
  have hsplit : cs.takeWhile isBlank ++ trimStart cs = cs := List.takeWhile_append_dropWhile
  rw [h, Option.map_some] at hstart
  rw [List.cons_append, hsplit] at hmark
  rw [List.take_append_drop] at hwritten
  rw [findTag, findTagFrom, hstart]
  simp only [hmark, hwritten]
  rfl

theorem findTag_of_mark {blanks rest : List Char} (hblank : ∀ b ∈ blanks, isBlank b = true)
    (hrest : trimStart rest = rest) (h : tags.find? (beginsWith rest) = some tag) :
    findTag tags ('#' :: (blanks ++ rest)) =
      some ⟨'#' :: blanks, rest.take (trim tag.toList).length,
        rest.drop (trim tag.toList).length⟩ := by
  have htrim : trimStart (blanks ++ rest) = rest := by
    rw [trimStart, List.dropWhile_append_of_pos hblank, ← trimStart, hrest]
  have hwhite : (blanks ++ rest).takeWhile isBlank = blanks := by
    have hsplit : (blanks ++ rest).takeWhile isBlank ++ trimStart (blanks ++ rest) =
        blanks ++ rest := List.takeWhile_append_dropWhile
    rw [htrim] at hsplit
    exact List.append_cancel_right hsplit
  rw [← htrim] at h
  rw [findTag_of_find? h, matchAt, afterMark]
  simp only [Nat.zero_add, List.drop_succ_cons, List.drop_zero, List.take_succ_cons, List.take_zero,
    List.singleton_append, hwhite, htrim]

theorem findTag_of_not_tagAt (h : ¬ TagAt tags (c :: cs) 0) :
    findTag tags (c :: cs) = (findTag tags cs).map (TagMatch.afterChar c) := by
  apply findTag_of_tagAtStart_eq_none
  by_cases hc : c = '#'
  · subst hc
    rw [tagAtStart_hash, Option.map_eq_none_iff, Option.eq_none_iff_forall_ne_some]
    intro tag htag
    exact h (tagAt_zero_iff.mpr ⟨rfl, tag, htag⟩)
  · exact tagAtStart_of_ne_hash hc

theorem findTag_cases (tags : List String) (cs : List Char) :
    (findTag tags cs = none ∧ ∀ p, ¬ TagAt tags cs p) ∨
      ∃ p tag, TagAt tags cs p ∧ (∀ q < p, ¬ TagAt tags cs q) ∧
        tags.find? (beginsWith (afterMark cs p)) = some tag ∧
        findTag tags cs = some (matchAt cs p tag) := by
  induction cs with
  | nil => exact .inl ⟨rfl, fun p hp => by simp [TagAt] at hp⟩
  | cons c cs ih =>
      by_cases hzero : TagAt tags (c :: cs) 0
      · obtain ⟨rfl, tag, htag⟩ := tagAt_zero_iff.mp hzero
        exact .inr ⟨0, tag, hzero, by simp, htag, findTag_of_find? htag⟩
      · rw [findTag_of_not_tagAt hzero]
        rcases ih with ⟨hnone, hplaces⟩ | ⟨p, tag, hp, hfirst, htag, hfound⟩
        · refine .inl ⟨by rw [hnone, Option.map_none], fun p => ?_⟩
          cases p with
          | zero => exact hzero
          | succ p => exact mt tagAt_succ.mp (hplaces p)
        · refine .inr ⟨p + 1, tag, tagAt_succ.mpr hp, fun q hq => ?_, htag, ?_⟩
          · cases q with
            | zero => exact hzero
            | succ q => exact mt tagAt_succ.mp (hfirst q (by omega))
          · rw [hfound, Option.map_some, matchAt_succ]

theorem TagAt.lt_length (h : TagAt tags cs p) : p < cs.length :=
  (List.getElem?_eq_some_iff.mp h.1).1

theorem findTag_eq_none_iff : findTag tags cs = none ↔ ∀ p, ¬ TagAt tags cs p := by
  rcases findTag_cases tags cs with ⟨hnone, hplaces⟩ | ⟨p, tag, hp, -, -, hfound⟩
  · exact iff_of_true hnone hplaces
  · refine iff_of_false ?_ fun hplaces => hplaces p hp
    rw [hfound]
    exact Option.some_ne_none _

/-- Two searches to which tags stand at the same places find them at the same place. -/
theorem findTag_cases_of_tagAt {others : List String} {ds : List Char}
    (h : ∀ p, TagAt tags cs p ↔ TagAt others ds p) :
    (findTag tags cs = none ∧ findTag others ds = none) ∨
      ∃ p tag other, tags.find? (beginsWith (afterMark cs p)) = some tag ∧
        others.find? (beginsWith (afterMark ds p)) = some other ∧
        findTag tags cs = some (matchAt cs p tag) ∧
        findTag others ds = some (matchAt ds p other) := by
  rcases findTag_cases tags cs with ⟨hnone, hplaces⟩ | ⟨p, tag, hp, hfirst, htag, hfound⟩
  · refine .inl ⟨hnone, findTag_eq_none_iff.mpr fun p hp => ?_⟩
    exact hplaces p ((h p).mpr hp)
  · rcases findTag_cases others ds with ⟨-, hplaces⟩ | ⟨q, other, hq, hfirst', hother, hfound'⟩
    · exact absurd ((h p).mp hp) (hplaces p)
    · have hpq : ¬ p < q := fun hlt => hfirst' p hlt ((h p).mp hp)
      have hqp : ¬ q < p := fun hlt => hfirst q hlt ((h q).mpr hq)
      obtain rfl : p = q := by omega
      exact .inr ⟨p, tag, other, htag, hother, hfound, hfound'⟩

theorem findTag_eq_firstTag? (tags : List String) (cs : List Char) :
    findTag tags cs = firstTag? tags cs := by
  unfold firstTag?
  rcases findTag_cases tags cs with ⟨hnone, hplaces⟩ | ⟨p, tag, hp, hfirst, htag, hfound⟩
  · have hfind : (List.range cs.length).find? (TagAt tags cs) = none := by
      rw [List.find?_eq_none]
      intro p _
      simpa using hplaces p
    rw [hnone, hfind]
    rfl
  · have hfind : (List.range cs.length).find? (TagAt tags cs) = some p := by
      rw [List.find?_range_eq_some]
      refine ⟨by simpa using hp, List.mem_range.mpr hp.lt_length, fun q hq => ?_⟩
      simpa using hfirst q hq
    rw [hfound, hfind]
    simp [htag]

theorem find?_of_findTag {m : TagMatch} (h : findTag tags cs = some m) :
    ∃ tag, tags.find? (beginsWith (m.tag ++ m.after)) = some tag ∧
      m.tag.map fold = tagForm tag := by
  rcases findTag_cases tags cs with ⟨hnone, -⟩ | ⟨p, tag, -, -, htag, hfound⟩
  · rw [hnone] at h
    cases h
  · rw [hfound] at h
    obtain rfl := Option.some.inj h
    have hsplit : (matchAt cs p tag).tag ++ (matchAt cs p tag).after = afterMark cs p :=
      List.take_append_drop _ _
    refine ⟨tag, by rw [hsplit, htag], ?_⟩
    obtain ⟨written, ⟨after, hafter⟩, hform⟩ := beginsWith_iff.mp (List.find?_some htag)
    rw [matchAt, ← hafter, ← length_of_tagForm hform, List.take_left, hform]

end Place

/-! ### Bytes -/

theorem utf8ByteSize_ofList (cs : List Char) :
    (String.ofList cs).utf8ByteSize = byteLength cs := by
  induction cs with
  | nil => rfl
  | cons c cs ih =>
      rw [String.ofList_cons, String.utf8ByteSize_append, String.utf8ByteSize_singleton, ih,
        byteLength]

theorem splitAtByte?_endOffset {tags : List String} {cs : List Char} {m : TagMatch}
    (h : findTag tags cs = some m) :
    splitAtByte? m.endOffset cs = some (m.before ++ m.tag, m.after) := by
  have htext := (findTag_marked h).text_eq
  rw [← List.append_assoc] at htext
  rw [TagMatch.endOffset, utf8ByteSize_ofList, ← htext]
  exact splitAtByte?_append _ _

/-- The search for recognised tags and the one for discouraged tags take the first place of the text
with a tag and the first tag of the list there, and find nothing if no place has one, as with an
empty list. The bytes up to the end of a tag end with a character, and the head is the text after
them without the white space at its ends. -/
theorem finds_first_tag (v : Vocabulary) (text : String) :
    (v.find? text = firstTag? v.tags text.toList ∧
      (v.find? text = none ↔ ∀ p, ¬ TagAt v.tags text.toList p)) ∧
    (v.findBad? text = firstTag? v.badTags text.toList ∧
      (v.findBad? text = none ↔ ∀ p, ¬ TagAt v.badTags text.toList p) ∧
      (v.badTags = [] → v.findBad? text = none)) ∧
    ∀ m, v.find? text = some m ∨ v.findBad? text = some m →
      ∃ rest, splitAtByte? m.endOffset text.toList = some (m.before ++ m.tag, rest) ∧
        m.head = trim rest := by
  refine ⟨⟨findTag_eq_firstTag? _ _, findTag_eq_none_iff⟩,
    ⟨findTag_eq_firstTag? _ _, findTag_eq_none_iff, ?_⟩, ?_⟩
  · intro hnil
    rw [Vocabulary.findBad?, findTag_eq_none_iff, hnil]
    rintro p ⟨-, tag, htag, -⟩
    exact List.not_mem_nil htag
  · rintro m (hm | hm)
    · exact ⟨m.after, splitAtByte?_endOffset hm, rfl⟩
    · exact ⟨m.after, splitAtByte?_endOffset hm, rfl⟩

/-- A tag with marks and a space in it, found with a Kelvin sign at the second `#` and behind an em
space, before a tag that it begins with. -/
theorem finds_first_tag_kelvin :
    let v : Vocabulary := ⟨["TODO", " a.+k b", "A.+K"], []⟩
    let m : TagMatch := ⟨"# x é#\u2003".toList, "A.+\u212a B".toList, ": y ".toList⟩
    v.find? "# x é#\u2003A.+\u212a B: y " = some m ∧
      v.findBad? "# x é#\u2003A.+\u212a B: y " = none ∧ m.endOffset = 18 ∧
      m.head = [':', ' ', 'y'] ∧
      ∃ rest, splitAtByte? m.endOffset "# x é#\u2003A.+\u212a B: y ".toList =
        some (m.before ++ m.tag, rest) ∧ m.head = trim rest := by
  intro v m
  have hm : v.find? "# x é#\u2003A.+\u212a B: y " = some m := by decide +kernel
  obtain ⟨-, ⟨-, -, hbad⟩, hend⟩ := finds_first_tag v "# x é#\u2003A.+\u212a B: y "
  exact ⟨hm, hbad rfl, by decide +kernel, by decide +kernel, hend m (.inl hm)⟩

end TodoLint
