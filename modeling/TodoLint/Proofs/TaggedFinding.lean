import TodoLint.Proofs.Registry
import TodoLint.Proofs.Vocabulary

/-!
Only tagged comments are complained about, code 1 included: the search for discouraged tags
sees no tag that the search for recognised ones misses.
-/

namespace TodoLint

namespace Rule

variable {rule : Rule} {v : Vocabulary} {tokens : List Token}

/-- A rule that has no complaint about a comment on its own unless it is tagged. -/
def NeedsTag (rule : Rule) (v : Vocabulary) : Prop :=
  ∀ complaint, rule.inspection = .ofComment complaint →
    ∀ t, (complaint v t).isSome = true → (v.find? t.text).isSome = true

theorem tagged_of_mem_subjects (hrule : rule.NeedsTag v) {t : Token}
    (ht : t ∈ rule.subjects v tokens) : (v.find? t.text).isSome = true := by
  unfold subjects at ht
  cases hinspection : rule.inspection with
  | ofComment complaint =>
      rw [hinspection] at ht
      exact hrule complaint hinspection t (List.mem_filter.mp ht).2
  | ofGroup complaint =>
      rw [hinspection] at ht
      obtain ⟨g, hg, rfl⟩ := List.mem_map.mp ht
      have hstart := List.mem_map_of_mem (List.mem_of_mem_filter hg) (f := Group.start)
      rw [start_groups] at hstart
      exact (List.mem_filter.mp hstart).2
  | ofTokens findings => simp [hinspection] at ht

theorem needsTag_demanding (code : Nat) (name text : String)
    (holds : String → List Char → Bool) : (demanding code name text holds).NeedsTag v := by
  intro complaint hinspection comment hsome
  obtain rfl := Inspection.ofComment.inj hinspection
  cases hfind : v.find? comment.text with
  | none => simp [hfind] at hsome
  | some found => rfl

theorem needsTag_invalidCase : invalidCase.NeedsTag v := by
  intro complaint hinspection comment hsome
  obtain rfl := Inspection.ofComment.inj hinspection
  cases hfind : v.find? comment.text with
  | none => simp [hfind] at hsome
  | some found => rfl

theorem needsTag_badTag (hv : v.Valid) : badTag.NeedsTag v := by
  intro complaint hinspection comment hsome
  obtain rfl := Inspection.ofComment.inj hinspection
  rw [Option.isSome_map] at hsome
  obtain ⟨m, hm⟩ := Option.isSome_iff_exists.mp hsome
  obtain ⟨found, hfound, -⟩ := hv.exists_find? hm
  exact Option.isSome_iff_exists.mpr ⟨found, hfound⟩

theorem needsTag_missedLink : missedLink.NeedsTag v := by
  intro complaint hinspection
  cases hinspection

theorem needsTag_of_mem_builtin (hv : v.Valid) (hrule : rule ∈ builtin) : rule.NeedsTag v := by
  simp only [builtin, List.mem_cons, List.not_mem_nil, or_false] at hrule
  rcases hrule with rfl | rfl | rfl | rfl | rfl | rfl | rfl
  · exact needsTag_badTag hv
  · exact needsTag_demanding _ _ _ _
  · exact needsTag_missedLink
  · exact needsTag_demanding _ _ _ _
  · exact needsTag_demanding _ _ _ _
  · exact needsTag_invalidCase
  · exact needsTag_demanding _ _ _ _

end Rule

theorem tagged_of_mem_check {c : Config} {r : Registry} {tokens : List Token} {f : Finding}
    (hr : c.registry = .ok r) (hf : f ∈ r.check tokens) :
    ∃ t ∈ tokens, t.kind = .comment ∧ (r.vocabulary.find? t.text).isSome = true ∧
      t.start = f.place := by
  obtain ⟨rule, hbuiltin, -, -, t, hsubject, hplace⟩ := Config.exists_rule hr hf
  obtain ⟨hmem, hkind⟩ := Rule.comment_of_mem_subjects hsubject
  obtain ⟨v, hv, rfl⟩ := Config.registry_eq_ok hr
  have hneeds := Rule.needsTag_of_mem_builtin (Vocabulary.ofTags_eq_ok hv).2 hbuiltin
  exact ⟨t, hmem, hkind, Rule.tagged_of_mem_subjects hneeds hsubject, hplace⟩

/-- Where a discouraged tag is found in a text, a recognised tag is found that does not start
later, and every finding stands at a comment with a recognised tag. -/
theorem recognised_of_discouraged :
    (∀ {tags badTags : List String} {v : Vocabulary}, Vocabulary.ofTags tags badTags = .ok v →
      ∀ {text : String} {bad : TagMatch}, v.findBad? text = some bad →
        ∃ found, v.find? text = some found ∧ found.before <+: bad.before) ∧
    (∀ {c : Config} {r : Registry}, c.registry = .ok r →
      ∀ {tokens : List Token} {f : Finding}, f ∈ r.check tokens →
        ∃ t ∈ tokens, t.kind = .comment ∧ (r.vocabulary.find? t.text).isSome = true ∧
          t.start = f.place) := by
  constructor
  · intro tags badTags v hv text bad hbad
    exact (Vocabulary.ofTags_eq_ok hv).2.exists_find? hbad
  · intro c r hr tokens f hf
    exact tagged_of_mem_check hr hf

/-- A tag listed with white space and found with a Kelvin sign, and a finding of code 1. -/
theorem recognised_kludge_fixme :
    (∃ found, (⟨["TODO", " Kludge"], [" KLUDGE"]⟩ : Vocabulary).find? "#\u2003\u212aludge" =
        some found ∧ found.before <+: ['#', '\u2003']) ∧
      ∃ t ∈ [Token.comment 2 5 "# fixme"], t.kind = .comment ∧
        (({} : Vocabulary).find? t.text).isSome = true ∧ t.start = ⟨2, 5⟩ := by
  constructor
  · have hv : Vocabulary.ofTags ["TODO", " Kludge"] [" KLUDGE"] =
        .ok ⟨["TODO", " Kludge"], [" KLUDGE"]⟩ := rfl
    have hbad : (⟨["TODO", " Kludge"], [" KLUDGE"]⟩ : Vocabulary).findBad? "#\u2003\u212aludge" =
        some ⟨['#', '\u2003'], "\u212aludge".toList, []⟩ := by
      decide +kernel
    exact recognised_of_discouraged.1 hv hbad
  · have hr : Config.registry {} = .ok (Registry.default.without []) := rfl
    have hf : (⟨2, 5, 1, "use TODO instead of fixme for consistency"⟩ : Finding) ∈
        (Registry.default.without []).check [.comment 2 5 "# fixme"] := by
      decide +kernel
    exact recognised_of_discouraged.2 hr hf

end TodoLint
