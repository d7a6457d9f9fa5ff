import TodoLint.Proofs.Text.Folding
import TodoLint.Proofs.Text.Pattern
import TodoLint.TagMatch

/-!
What the search for a tag finds: a marked tag of the text (`findTag_marked`), and unless a tag
of the list is blank, none that starts before it is passed over (`exists_findTag`).
-/

namespace TodoLint

open Text

/-- The form under which tags are compared: without white space at its ends, up to case. -/
def tagForm (tag : String) : List Char :=
  (trim tag.toList).map fold

namespace TagMatch

/-- A marked tag of a text: one of the tags, after a `#` and white space. -/
structure Marked (tags : List String) (text : List Char) (m : TagMatch) : Prop where
  text_eq : m.before ++ (m.tag ++ m.after) = text
  before_eq : ∃ front blanks, front ++ '#' :: blanks = m.before ∧ ∀ c ∈ blanks, isBlank c = true
  tag_eq : ∃ tag ∈ tags, m.tag.map fold = tagForm tag

/-- The tag in the text with one more character in front. -/
def afterChar (c : Char) (m : TagMatch) : TagMatch :=
  { m with before := c :: m.before }

end TagMatch

section Search

variable {tags : List String} {cs fromTag after : List Char} {c : Char} {m : TagMatch}

theorem matches_tagMark_iff :
    tagMark.Matches cs ↔ ∃ blanks, '#' :: blanks = cs ∧ ∀ c ∈ blanks, isBlank c = true := by
  constructor
  · rintro ⟨-, blanks, rfl, ⟨c, rfl, hc⟩, hblanks⟩
    obtain rfl := eq_of_beq hc
    exact ⟨blanks, rfl, Pattern.matches_run_all_iff.mp hblanks⟩
  · rintro ⟨blanks, rfl, hblank⟩
    exact ⟨['#'], blanks, rfl, ⟨'#', rfl, rfl⟩, Pattern.matches_run_all_iff.mpr hblank⟩

theorem matches_letters_iff {letters : List Char} :
    (Pattern.inOrder (letters.map fun c => .one (sameLetter c))).Matches cs ↔
      cs.map fold = letters.map fold := by
  induction letters generalizing cs with
  | nil => simp [Pattern.inOrder, Pattern.Matches]
  | cons letter letters ih =>
      constructor
      · rintro ⟨-, back, rfl, ⟨c, rfl, hc⟩, hback⟩
        have hfold : fold letter = fold c := by simpa [sameLetter] using hc
        rw [List.singleton_append, List.map_cons, List.map_cons, hfold, ih.mp hback]
      · intro hform
        cases cs with
        | nil => simp at hform
        | cons c cs =>
            simp only [List.map_cons, List.cons.injEq] at hform
            exact ⟨[c], cs, rfl, ⟨c, rfl, by simp [sameLetter, hform.1]⟩, ih.mpr hform.2⟩

theorem matches_tagPattern_iff {tag : String} :
    (tagPattern tag).Matches cs ↔ cs.map fold = tagForm tag :=
  matches_letters_iff

theorem mem_rests_tagMark :
    fromTag ∈ tagMark.rests cs ↔
      ∃ blanks, '#' :: (blanks ++ fromTag) = cs ∧ ∀ c ∈ blanks, isBlank c = true := by
  rw [Pattern.mem_rests_iff]
  simp only [matches_tagMark_iff]
  constructor
  · rintro ⟨-, rfl, blanks, rfl, hblank⟩
    exact ⟨blanks, rfl, hblank⟩
  · rintro ⟨blanks, rfl, hblank⟩
    exact ⟨'#' :: blanks, rfl, blanks, rfl, hblank⟩

theorem mem_rests_tags :
    after ∈ (Pattern.anyOf (tags.map tagPattern)).rests fromTag ↔
      ∃ written, written ++ after = fromTag ∧ ∃ tag ∈ tags, written.map fold = tagForm tag := by
  simp only [Pattern.mem_rests_iff, Pattern.matches_anyOf_iff, List.mem_map,
    exists_exists_and_eq_and, matches_tagPattern_iff]

theorem tagAtStart_eq_some (h : tagAtStart tags cs = some (fromTag, after)) :
    ∃ blanks written, '#' :: (blanks ++ (written ++ after)) = cs ∧ written ++ after = fromTag ∧
      (∀ c ∈ blanks, isBlank c = true) ∧ ∃ tag ∈ tags, written.map fold = tagForm tag := by
  obtain ⟨middle, hmark, hmiddle⟩ := List.exists_of_findSome?_eq_some h
  obtain ⟨rest, hrest, hpair⟩ := Option.map_eq_some_iff.mp hmiddle
  obtain ⟨rfl, rfl⟩ := Prod.mk.inj hpair
  obtain ⟨blanks, rfl, hblank⟩ := mem_rests_tagMark.mp hmark
  obtain ⟨written, rfl, htag⟩ := mem_rests_tags.mp (List.mem_of_head? hrest)
  exact ⟨blanks, written, rfl, rfl, hblank, htag⟩

theorem tagAtStart_ne_none {blanks written : List Char} (hblank : ∀ c ∈ blanks, isBlank c = true)
    (htag : ∃ tag ∈ tags, written.map fold = tagForm tag) :
    tagAtStart tags ('#' :: (blanks ++ (written ++ after))) ≠ none := by
  intro hnone
  have hmark : written ++ after ∈ tagMark.rests ('#' :: (blanks ++ (written ++ after))) :=
    mem_rests_tagMark.mpr ⟨blanks, rfl, hblank⟩
  have hafter : after ∈ (Pattern.anyOf (tags.map tagPattern)).rests (written ++ after) :=
    mem_rests_tags.mpr ⟨written, rfl, htag⟩
  have hhead := List.findSome?_eq_none_iff.mp hnone _ hmark
  rw [Option.map_eq_none_iff, List.head?_eq_none_iff] at hhead
  rw [hhead] at hafter
  exact List.not_mem_nil hafter

theorem findTagFrom_eq_map (tags : List String) (seen cs : List Char) :
    findTagFrom tags seen cs =
      (findTag tags cs).map fun m => { m with before := seen.reverse ++ m.before } := by
  unfold findTag
  induction cs generalizing seen with
  | nil => rfl
  | cons c cs ih =>
      unfold findTagFrom
      split
      · simp
      · rw [ih (c :: seen), ih [c]]
        cases findTagFrom tags [] cs <;> simp

theorem findTag_of_tagAtStart_eq_none (h : tagAtStart tags (c :: cs) = none) :
    findTag tags (c :: cs) = (findTag tags cs).map (TagMatch.afterChar c) := by
  rw [findTag, findTagFrom, h]
  exact findTagFrom_eq_map tags [c] cs

theorem take_length_sub (front rest : List Char) :
    (front ++ rest).take ((front ++ rest).length - rest.length) = front := by
  rw [List.length_append, Nat.add_sub_cancel, List.take_left]

theorem findTag_of_tagAtStart_eq_some (h : tagAtStart tags cs = some (fromTag, after)) :
    ∃ blanks written, findTag tags cs = some ⟨'#' :: blanks, written, after⟩ ∧
      (∀ c ∈ blanks, isBlank c = true) ∧
      TagMatch.Marked tags cs ⟨'#' :: blanks, written, after⟩ := by
  obtain ⟨blanks, written, rfl, rfl, hblank, htag⟩ := tagAtStart_eq_some h
  refine ⟨blanks, written, ?_, hblank, rfl, ⟨[], blanks, rfl, hblank⟩, htag⟩
  have hmark := take_length_sub ('#' :: blanks) (written ++ after)
  rw [List.cons_append] at hmark
  rw [findTag, findTagFrom, h]
  simp only [List.reverse_nil, List.nil_append, hmark, take_length_sub]

/-- A tag that is found is a marked tag of the text. -/
theorem findTag_marked (h : findTag tags cs = some m) : m.Marked tags cs := by
  induction cs generalizing m with
  | nil => cases h
  | cons c cs ih =>
      cases hstart : tagAtStart tags (c :: cs) with
      | some found =>
          obtain ⟨blanks, written, hfound, -, hmarked⟩ := findTag_of_tagAtStart_eq_some hstart
          rw [hfound] at h
          obtain rfl := Option.some.inj h
          exact hmarked
      | none =>
          rw [findTag_of_tagAtStart_eq_none hstart] at h
          obtain ⟨m, hm, rfl⟩ := Option.map_eq_some_iff.mp h
          obtain ⟨htext, ⟨front, blanks, hbefore, hblank⟩, htag⟩ := ih hm
          refine ⟨?_, ⟨c :: front, blanks, ?_, hblank⟩, htag⟩
          · exact congrArg (c :: ·) htext
          · exact congrArg (c :: ·) hbefore

theorem exists_cons_of_tag {written : List Char} (hne : ∀ tag ∈ tags, isBlankTag tag = false)
    (htag : ∃ tag ∈ tags, written.map fold = tagForm tag) :
    ∃ c rest, written = c :: rest ∧ isBlank c = false := by
  obtain ⟨tag, hmem, hform⟩ := htag
  unfold tagForm at hform
  cases htrim : trim tag.toList with
  | nil =>
      have hblank := (trim_eq_nil_iff tag.toList).mp htrim
      rw [← isBlankTag, hne tag hmem] at hblank
      cases hblank
  | cons d letters =>
      cases written with
      | nil => simp [htrim] at hform
      | cons c rest =>
          rw [htrim, List.map_cons, List.map_cons] at hform
          refine ⟨c, rest, rfl, ?_⟩
          rw [← isBlank_fold, (List.cons.inj hform).1, isBlank_fold]
          exact isBlank_of_trim_eq_cons htrim

theorem takeWhile_append_prefix {p : Char → Bool} (front rest : List Char) (hc : p c = false) :
    (front ++ c :: rest).takeWhile p <+: front := by
  induction front with
  | nil => simp [hc]
  | cons d front ih =>
      rw [List.cons_append, List.takeWhile_cons]
      split
      · exact (List.prefix_cons_inj d).mpr ih
      · exact List.nil_prefix

theorem mark_prefix {blanks left before rest : List Char}
    (hblank : ∀ c ∈ blanks, isBlank c = true) (hc : isBlank c = false) (hne : before ≠ [])
    (h : '#' :: (blanks ++ left) = before ++ c :: rest) : '#' :: blanks <+: before := by
  obtain ⟨b, before, rfl⟩ := List.exists_cons_of_ne_nil hne
  rw [List.cons_append] at h
  obtain ⟨rfl, hafter⟩ := List.cons.inj h
  have hprefix := takeWhile_append_prefix before rest hc
  rw [← hafter, List.takeWhile_append_of_pos hblank] at hprefix
  exact (List.prefix_cons_inj '#').mpr ((List.prefix_append blanks _).trans hprefix)

/-- No marked tag starts before the one that is found. -/
theorem exists_findTag (hne : ∀ tag ∈ tags, isBlankTag tag = false) (h : m.Marked tags cs) :
    ∃ found, findTag tags cs = some found ∧ found.before <+: m.before := by
  induction cs generalizing m with
  | nil =>
      obtain ⟨htext, ⟨front, blanks, hbefore, -⟩, -⟩ := h
      simp [← hbefore] at htext
  | cons c cs ih =>
      obtain ⟨before, tag, after⟩ := m
      obtain ⟨htext, ⟨front, blanks, hbefore, hblank⟩, htag⟩ := h
      simp only at htext hbefore htag
      cases hstart : tagAtStart tags (c :: cs) with
      | some found =>
          -- the white space after the first character ends before the tag of `m` begins
          obtain ⟨blanks', written, hfound, hblank', hmarked⟩ :=
            findTag_of_tagAtStart_eq_some hstart
          obtain ⟨d, rest, rfl, hd⟩ := exists_cons_of_tag hne htag
          refine ⟨_, hfound, mark_prefix hblank' hd ?_ (hmarked.text_eq.trans htext.symm)⟩
          simp [← hbefore]
      | none =>
          cases front with
          | nil =>
              rw [← htext, ← hbefore] at hstart
              exact absurd hstart (tagAtStart_ne_none hblank htag)
          | cons b front =>
              subst hbefore
              obtain ⟨rfl, hcs⟩ := List.cons.inj htext
              have hmarked : TagMatch.Marked tags cs ⟨front ++ '#' :: blanks, tag, after⟩ :=
                ⟨hcs, ⟨front, blanks, rfl, hblank⟩, htag⟩
              obtain ⟨found, hfound, hprefix⟩ := ih hmarked
              refine ⟨found.afterChar b, ?_, (List.prefix_cons_inj b).mpr hprefix⟩
              rw [findTag_of_tagAtStart_eq_none hstart, hfound, Option.map_some]

end Search

end TodoLint
