import TodoLint.Proofs.CanonicalTag
import TodoLint.Proofs.Shape
import TodoLint.Proofs.TagLetters
import TodoLint.Proofs.Text.LetterCase

/-!
The advice to write a tag in capitals. Whoever follows it under the default vocabulary is not given
it again, and the other rules on single comments say what they said before (`advice_followed`).
Under other vocabularies it can be no advice at all, exactly for tags in which nothing or not
everything can be put in capitals (`advice_helps_iff`).
-/

namespace TodoLint

open Text

namespace Rule

variable {v : Vocabulary} {tokens : List Token} {t : Token} {f : Finding} {m : TagMatch}

theorem mem_evaluate_invalidCase :
    f ∈ invalidCase.evaluate v tokens ↔ ∃ t ∈ tokens, t.kind = .comment ∧
      ∃ m, v.find? t.text = some m ∧ isUpperText m.tag = false ∧
        Finding.ofToken t 6 ("write " ++ String.ofList (upperText m.tag) ++ " instead of " ++
          String.ofList m.tag) = f := by
  rw [mem_evaluate_of_comment rfl]
  refine exists_congr fun t => and_congr_right fun _ => and_congr_right fun _ => ?_
  cases hfound : v.find? t.text with
  | none => simp
  | some m => cases hupper : isUpperText m.tag <;> simp [hupper, invalidCase]

theorem evaluate_invalidCase_eq_nil_iff (hkind : t.kind = .comment)
    (hfound : v.find? t.text = some m) :
    invalidCase.evaluate v [t] = [] ↔ isUpperText m.tag = true := by
  rw [evaluate_comment_eq_nil_iff rfl hkind]
  simp [hfound]

/-- The rules on the shape of a comment look at what stands behind its tag alone. -/
theorem evaluate_shapeRule_congr {u : Token} {n : TagMatch} {rule : Rule}
    (hrule : rule ∈ shapeRules) (ht : t.kind = .comment) (hu : u.kind = .comment)
    (hm : v.find? t.text = some m) (hn : v.find? u.text = some n) (hhead : n.head = m.head) :
    rule.evaluate v [u] = [] ↔ rule.evaluate v [t] = [] := by
  simp only [shapeRules, List.mem_cons, List.not_mem_nil, or_false] at hrule
  rcases hrule with rfl | rfl | rfl | rfl
  · rw [missedAuthor, evaluate_demanding_eq_nil_iff hu hn, evaluate_demanding_eq_nil_iff ht hm,
      hhead]
  · rw [evaluate_missedColon_eq_nil_iff hu hn, evaluate_missedColon_eq_nil_iff ht hm, hhead]
  · rw [evaluate_missedText_eq_nil_iff hu hn, evaluate_missedText_eq_nil_iff ht hm, hhead]
  · rw [evaluate_missedSpace_eq_nil_iff hu hn, evaluate_missedSpace_eq_nil_iff ht hm, hhead]

end Rule

/-- The comment with its tag written in another way. -/
def Token.withTag (t : Token) (m : TagMatch) (written : List Char) : Token :=
  { t with text := String.ofList (m.withTag written).text }

section Recasing

variable {v : Vocabulary} {t : Token} {m : TagMatch} {written : List Char}

theorem Vocabulary.find?_withTag (hm : v.find? t.text = some m)
    (hfold : written.map fold = m.tag.map fold) :
    v.find? (t.withTag m written).text = some (m.withTag written) := by
  rw [Vocabulary.find?, Token.withTag, String.toList_ofList]
  exact findTag_withTag hm hfold

theorem Vocabulary.findBad?_withTag_eq_none_iff (hm : v.find? t.text = some m)
    (hfold : written.map fold = m.tag.map fold) :
    v.findBad? (t.withTag m written).text = none ↔ v.findBad? t.text = none := by
  have hsame : (m.withTag written).text.map fold = t.text.toList.map fold := by
    rw [← (findTag_marked hm).text_eq]
    simp [TagMatch.text, TagMatch.withTag, hfold]
  rw [Vocabulary.findBad?, Token.withTag, String.toList_ofList, Vocabulary.findBad?,
    ← Option.isNone_iff_eq_none, ← Option.isNone_iff_eq_none, ← Option.not_isSome,
    isSome_findTag_congr_fold hsame, Option.not_isSome]

theorem evaluate_withTag_eq_nil_iff (hkind : t.kind = .comment) (hm : v.find? t.text = some m)
    (hfold : written.map fold = m.tag.map fold) :
    ∀ rule ∈ Rule.badTag :: Rule.shapeRules,
      (rule.evaluate v [t.withTag m written] = [] ↔ rule.evaluate v [t] = []) := by
  intro rule hrule
  rcases List.mem_cons.mp hrule with rfl | hshape
  · rw [Rule.evaluate_badTag_eq_nil_iff (t := t.withTag m written) hkind,
      Rule.evaluate_badTag_eq_nil_iff hkind]
    exact Vocabulary.findBad?_withTag_eq_none_iff hm hfold
  · have hfind := Vocabulary.find?_withTag hm hfold
    exact Rule.evaluate_shapeRule_congr hshape hkind hkind hm hfind rfl

end Recasing

theorem default_tags_plain : ∀ tag ∈ ({} : Vocabulary).tags,
    tagForm tag ≠ [] ∧ ∀ c ∈ tagForm tag, c ∈ plainLetters := by
  have htags : (({} : Vocabulary).tags.all fun tag =>
      tagForm tag ≠ [] ∧ (tagForm tag).all (· ∈ plainLetters)) = true := by decide
  simpa using htags

theorem capitalises_of_find? {text : String} {m : TagMatch}
    (hm : ({} : Vocabulary).find? text = some m) : m.tag ≠ [] ∧ ∀ c ∈ m.tag, Capitalises c := by
  obtain ⟨tag, htag, hform⟩ := (findTag_marked hm).tag_eq
  obtain ⟨hne, hplain⟩ := default_tags_plain tag htag
  constructor
  · rintro hnil
    rw [← hform, hnil] at hne
    exact hne rfl
  · intro c hc
    exact capitalises_of_fold (hplain _ (hform ▸ List.mem_map_of_mem hc))

theorem endOffset_withTag {m : TagMatch} {written : List Char}
    (h : byteLength written = byteLength m.tag) : (m.withTag written).endOffset = m.endOffset := by
  rw [TagMatch.endOffset, TagMatch.endOffset, utf8ByteSize_ofList, utf8ByteSize_ofList,
    byteLength_append, byteLength_append]
  exact congrArg (byteLength m.before + ·) h

/-- A comment that is blamed for the case of its tag is not blamed any more with the tag as it is to
be written. The tag is then found at the same place, with the same end and the same text behind it,
and the rules on discouraged tags and on the shape find fault with the comment if and only if they
did before. -/
theorem advice_followed {t : Token} {f : Finding} (hf : f ∈ Rule.invalidCase.evaluate {} [t]) :
    ∃ m capitals, ({} : Vocabulary).find? t.text = some m ∧ m.text = t.text.toList ∧
      f = Finding.ofToken t 6
        ("write " ++ String.ofList capitals ++ " instead of " ++ String.ofList m.tag) ∧
      ({} : Vocabulary).find? (t.withTag m capitals).text = some (m.withTag capitals) ∧
      (m.withTag capitals).before = m.before ∧
      (m.withTag capitals).endOffset = m.endOffset ∧ (m.withTag capitals).head = m.head ∧
      Rule.invalidCase.evaluate {} [t.withTag m capitals] = [] ∧
      ∀ rule ∈ Rule.badTag :: Rule.shapeRules,
        (rule.evaluate {} [t.withTag m capitals] = [] ↔ rule.evaluate {} [t] = []) := by
  obtain ⟨u, hu, hkind, m, hm, -, rfl⟩ := Rule.mem_evaluate_invalidCase.mp hf
  obtain rfl := List.mem_singleton.mp hu
  obtain ⟨hne, hletters⟩ := capitalises_of_find? hm
  have hfold := map_fold_upperText hletters
  have hfound := Vocabulary.find?_withTag hm hfold
  refine ⟨m, upperText m.tag, hm, (findTag_marked hm).text_eq, rfl, hfound, rfl,
    endOffset_withTag (byteLength_upperText hletters), rfl, ?_,
    evaluate_withTag_eq_nil_iff hkind hm hfold⟩
  rw [Rule.evaluate_invalidCase_eq_nil_iff (t := u.withTag m (upperText m.tag)) hkind hfound]
  exact isUpperText_upperText hne hletters

/-- A tag behind an em space at the second `#`, with a discouraged tag behind it. -/
theorem advice_followed_mixed :
    (⟨1, 1, 6, "write TODO instead of tOdO"⟩ : Finding) ∈
        Rule.invalidCase.evaluate {} [.comment 1 1 "# é #\u2003tOdO(me):x #fixme"] ∧
      ∃ m capitals, ({} : Vocabulary).find? "# é #\u2003tOdO(me):x #fixme" = some m ∧
        "write TODO instead of tOdO" =
          "write " ++ String.ofList capitals ++ " instead of " ++ String.ofList m.tag ∧
        Rule.invalidCase.evaluate {}
          [(Token.comment 1 1 "# é #\u2003tOdO(me):x #fixme").withTag m capitals] = [] := by
  have hf : (⟨1, 1, 6, "write TODO instead of tOdO"⟩ : Finding) ∈
      Rule.invalidCase.evaluate {} [.comment 1 1 "# é #\u2003tOdO(me):x #fixme"] := by
    decide
  obtain ⟨m, capitals, hm, -, htext, -, -, -, -, hsilent, -⟩ := advice_followed hf
  exact ⟨hf, m, capitals, hm, congrArg Finding.text htext, hsilent⟩

/-- Whether the advice to write a tag in capitals names another spelling, and one that is in
capitals: if and only if every lower-case character of the tag has another upper-case form, and one
character is upper-case or has another such form. -/
theorem advice_helps_iff {v : Vocabulary} {tokens : List Token} {f : Finding}
    (hf : f ∈ Rule.invalidCase.evaluate v tokens) :
    ∃ t ∈ tokens, ∃ m capitals, v.find? t.text = some m ∧
      f = Finding.ofToken t 6
        ("write " ++ String.ofList capitals ++ " instead of " ++ String.ofList m.tag) ∧
      (capitals ≠ m.tag ∧ isUpperText capitals = true ↔
        (∀ c ∈ m.tag, isLower c = true → upper c ≠ [c]) ∧
          ∃ c ∈ m.tag, isUpper c = true ∨ upper c ≠ [c]) := by
  obtain ⟨t, ht, -, m, hm, hupper, rfl⟩ := Rule.mem_evaluate_invalidCase.mp hf
  refine ⟨t, ht, m, upperText m.tag, hm, rfl, ?_⟩
  rw [← isUpperText_upperText_iff, and_iff_right_iff_imp]
  intro hcapitals hsame
  rw [hsame, hupper] at hcapitals
  cases hcapitals

theorem advice_helps_sharp_s :
    (⟨1, 1, 6, "write STRASSE instead of straße"⟩ : Finding) ∈
        Rule.invalidCase.evaluate ⟨["TODO", "straße"], []⟩ [.comment 1 1 "# straße: x"] ∧
      ∃ t ∈ [Token.comment 1 1 "# straße: x"], ∃ m capitals,
        (⟨["TODO", "straße"], []⟩ : Vocabulary).find? t.text = some m ∧
        (capitals ≠ m.tag ∧ isUpperText capitals = true ↔
          (∀ c ∈ m.tag, isLower c = true → upper c ≠ [c]) ∧
            ∃ c ∈ m.tag, isUpper c = true ∨ upper c ≠ [c]) := by
  have hf : (⟨1, 1, 6, "write STRASSE instead of straße"⟩ : Finding) ∈
      Rule.invalidCase.evaluate ⟨["TODO", "straße"], []⟩ [.comment 1 1 "# straße: x"] := by
    decide
  obtain ⟨t, ht, m, capitals, hm, -, hiff⟩ := advice_helps_iff hf
  exact ⟨hf, t, ht, m, capitals, hm, hiff⟩

/-- Advice to write a tag as it is written, and advice that leaves a lower-case character. -/
theorem advice_useless_digits :
    Vocabulary.ofTags ["TODO", "123", "nª"] [] = .ok ⟨["TODO", "123", "nª"], []⟩ ∧
      Rule.invalidCase.evaluate ⟨["TODO", "123", "nª"], []⟩
          [.comment 1 1 "# 123: x", .comment 2 1 "# nª: x"] =
        [⟨1, 1, 6, "write 123 instead of 123"⟩, ⟨2, 1, 6, "write Nª instead of nª"⟩] ∧
      isUpperText "123".toList = false ∧ isUpperText "Nª".toList = false := by
  refine ⟨rfl, ?_, ?_, ?_⟩
  all_goals decide

end TodoLint
