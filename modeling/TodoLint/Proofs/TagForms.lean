import Mathlib.Data.Finset.Dedup
import TodoLint.Proofs.Group
import TodoLint.Proofs.TagPlace

/-!
What of a list of tags decides on the search. Where a tag stands depends on the set of forms of the
tags alone, and so does what stands there, unless one form begins with another
(`find?_congr_forms`).
-/

namespace TodoLint

open Text

/-- The set of the forms of tags, without the order, the repetitions and the spelling. -/
def tagForms (tags : List String) : Finset (List Char) :=
  (tags.map tagForm).toFinset

theorem mem_tagForms {tags : List String} {form : List Char} :
    form ∈ tagForms tags ↔ ∃ tag ∈ tags, tagForm tag = form := by
  rw [tagForms, List.mem_toFinset, List.mem_map]

section Search

variable {tags others : List String} {cs : List Char} {p : Nat} {tag other : String}

theorem beginsWith_congr (h : tagForm tag = tagForm other) :
    beginsWith cs tag = beginsWith cs other := by
  rw [beginsWith, beginsWith, h]

theorem matchAt_congr (h : tagForm tag = tagForm other) :
    matchAt cs p tag = matchAt cs p other := by
  have hlength : (trim tag.toList).length = (trim other.toList).length := by
    simpa [tagForm] using congrArg List.length h
  rw [matchAt, matchAt, hlength]

theorem TagAt.of_tagForms_subset (h : tagForms tags ⊆ tagForms others) (hp : TagAt tags cs p) :
    TagAt others cs p := by
  obtain ⟨hhash, tag, htag, hbegins⟩ := hp
  obtain ⟨other, hother, hform⟩ := mem_tagForms.mp (h (mem_tagForms.mpr ⟨tag, htag, rfl⟩))
  refine ⟨hhash, other, hother, ?_⟩
  rw [beginsWith_congr hform, hbegins]

theorem tagAt_congr (h : tagForms tags = tagForms others) :
    TagAt tags cs p ↔ TagAt others cs p := by
  constructor
  · exact TagAt.of_tagForms_subset h.subset
  · exact TagAt.of_tagForms_subset h.symm.subset

/-- Two lists with the same forms find tags at the same place. -/
theorem findTag_cases_of_tagForms (h : tagForms tags = tagForms others) (cs : List Char) :
    (findTag tags cs = none ∧ findTag others cs = none) ∨
      ∃ p, ∃ tag ∈ tags, ∃ other ∈ others,
        findTag tags cs = some (matchAt cs p tag) ∧
        findTag others cs = some (matchAt cs p other) ∧
        beginsWith (afterMark cs p) tag = true ∧ beginsWith (afterMark cs p) other = true := by
  rcases findTag_cases_of_tagAt fun p => tagAt_congr h with
    hnone | ⟨p, tag, other, htag, hother, hfound, hfound'⟩
  · exact .inl hnone
  · exact .inr ⟨p, tag, List.mem_of_find?_eq_some htag, other, List.mem_of_find?_eq_some hother,
      hfound, hfound', List.find?_some htag, List.find?_some hother⟩

theorem before_findTag_congr (h : tagForms tags = tagForms others) (cs : List Char) :
    (findTag tags cs).map TagMatch.before = (findTag others cs).map TagMatch.before := by
  rcases findTag_cases_of_tagForms h cs with
    ⟨hnone, hnone'⟩ | ⟨p, tag, -, other, -, hfound, hfound', -⟩
  · rw [hnone, hnone']
  · rw [hfound, hfound']
    rfl

/-- Of two forms at the same place one begins with the other. -/
theorem findTag_congr (h : tagForms tags = tagForms others)
    (hapart : ∀ a ∈ tagForms tags, ∀ b ∈ tagForms tags, a <+: b → a = b) (cs : List Char) :
    findTag tags cs = findTag others cs := by
  rcases findTag_cases_of_tagForms h cs with
    ⟨hnone, hnone'⟩ | ⟨p, tag, htag, other, hother, hfound, hfound', hbegins, hbegins'⟩
  · rw [hnone, hnone']
  · have hform : tagForm tag ∈ tagForms tags := mem_tagForms.mpr ⟨tag, htag, rfl⟩
    have hform' : tagForm other ∈ tagForms tags := by
      rw [h]
      exact mem_tagForms.mpr ⟨other, hother, rfl⟩
    rw [beginsWith, List.isPrefixOf_iff_prefix] at hbegins hbegins'
    have heq : tagForm tag = tagForm other := by
      rcases List.prefix_or_prefix_of_prefix hbegins hbegins' with hprefix | hprefix
      · exact hapart _ hform _ hform' hprefix
      · exact (hapart _ hform' _ hform hprefix).symm
    rw [hfound, hfound', matchAt_congr heq]

end Search

/-- Vocabularies whose tags have the same forms find tags in the same texts and at the same places,
so that comments form the same groups and lack the same links. If no form begins with another one,
they find the same tags with the same text behind them. -/
theorem find?_congr_forms {v w : Vocabulary} (h : tagForms v.tags = tagForms w.tags) :
    (∀ text, (v.find? text).isSome = (w.find? text).isSome ∧
      (v.find? text).map TagMatch.before = (w.find? text).map TagMatch.before) ∧
    (∀ tokens, groups (fun text => (v.find? text).isSome) tokens =
        groups (fun text => (w.find? text).isSome) tokens ∧
      Rule.missedLink.evaluate v tokens = Rule.missedLink.evaluate w tokens) ∧
    ((∀ a ∈ tagForms v.tags, ∀ b ∈ tagForms v.tags, a <+: b → a = b) →
      ∀ text, v.find? text = w.find? text) := by
  have hbefore : ∀ text, (v.find? text).map TagMatch.before = (w.find? text).map TagMatch.before :=
    fun text => before_findTag_congr h text.toList
  have hsome : ∀ text, (v.find? text).isSome = (w.find? text).isSome := by
    intro text
    rw [← Option.isSome_map (f := TagMatch.before), hbefore, Option.isSome_map]
  have htagged : (fun text => (v.find? text).isSome) = fun text => (w.find? text).isSome :=
    funext hsome
  refine ⟨fun text => ⟨hsome text, hbefore text⟩, fun tokens => ?_, fun hapart text => ?_⟩
  · rw [Rule.evaluate_missedLink, Rule.evaluate_missedLink, htagged]
    exact ⟨rfl, rfl⟩
  · exact findTag_congr h hapart text.toList

/-- Tags of which one begins with another, so that the match of the first list is longer, and tags
that stand apart. -/
theorem find?_congr_forms_todo :
    (({ tags := ["TODO", "TO"] } : Vocabulary).find? "#todo: x").map TagMatch.before =
        (({ tags := ["to ", "ToDo", "TO"] } : Vocabulary).find? "#todo: x").map TagMatch.before ∧
      ({ tags := ["TODO", "Kludge"] } : Vocabulary).find? "# \u212aLUDGE" =
        ({ tags := ["\u2003kludge", "todo", "TODO "] } : Vocabulary).find? "# \u212aLUDGE" := by
  constructor
  · have hforms : tagForms ["TODO", "TO"] = tagForms ["to ", "ToDo", "TO"] := by decide +kernel
    exact ((find?_congr_forms (v := { tags := ["TODO", "TO"] })
      (w := { tags := ["to ", "ToDo", "TO"] }) hforms).1 "#todo: x").2
  · have hforms : tagForms ["TODO", "Kludge"] = tagForms ["\u2003kludge", "todo", "TODO "] := by
      decide +kernel
    have hapart : ∀ a ∈ tagForms ["TODO", "Kludge"], ∀ b ∈ tagForms ["TODO", "Kludge"],
        a <+: b → a = b := by
      decide +kernel
    exact (find?_congr_forms (v := { tags := ["TODO", "Kludge"] })
      (w := { tags := ["\u2003kludge", "todo", "TODO "] }) hforms).2.2 hapart "# \u212aLUDGE"

end TodoLint
