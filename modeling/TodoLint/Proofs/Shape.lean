import Mathlib.Data.List.TakeWhile
import TodoLint.Proofs.TagSearch
import TodoLint.Proofs.Text.Substring
import TodoLint.Rule.Builtin

/-!
What the rules on the shape of a comment make of what stands behind its tag. A space behind the
colon is enough for the rules on colons and on texts, and only where nothing stands behind the tag
do these two complain together (`shape_verdicts`). An author with a colon, a space and a text behind
it is accepted in both spellings, but its colon is seen only behind a closing parenthesis
(`shape_accepted_iff`).
-/

namespace TodoLint

open Text

namespace Shape

variable {author text rest cs : List Char}

theorem takeWhile_author (hcolon : ':' ∉ author) : author.takeWhile (· ≠ ':') = author := by
  rw [List.takeWhile_eq_self_iff]
  intro c hc
  simpa using ne_of_mem_of_not_mem hc hcolon

theorem hasAuthor_append (hcolon : ':' ∉ author) :
    hasAuthor (author ++ ':' :: rest) = hasAuthor author := by
  have hauthor : (author ++ ':' :: rest).takeWhile (· ≠ ':') = author := by
    rw [List.takeWhile_append, takeWhile_author hcolon]
    simp
  rw [hasAuthor, hasAuthor, hauthor, takeWhile_author hcolon]

theorem getLast?_of_hasAuthor (hcolon : ':' ∉ author) (hauthor : hasAuthor author = true)
    (hopen : author.head? = some '(') : author.getLast? = some ')' := by
  cases author with
  | nil => cases hopen
  | cons c name =>
      obtain rfl : c = '(' := Option.some.inj hopen
      simp only [hasAuthor, takeWhile_author hcolon] at hauthor
      split at hauthor
      · rename_i hlast
        rw [List.getLast?_cons, hlast]
        rfl
      · cases hauthor

theorem hasColon_eq_true_iff : hasColon cs = true ↔ [':'] <+: cs ∨ [')', ':'] <:+: cs := by
  rw [hasColon, Bool.or_eq_true, List.isPrefixOf_iff_prefix, occurs_iff]

theorem hasSpace_eq_true_iff :
    hasSpace cs = true ↔ [':', ' '] <+: cs ∨ [')', ':', ' '] <:+: cs := by
  rw [hasSpace, Bool.or_eq_true, List.isPrefixOf_iff_prefix, occurs_iff]

theorem hasSpace_append_iff (hne : author ≠ []) (hcolon : ':' ∉ author) :
    hasSpace (author ++ ':' :: ' ' :: text) = true ↔
      author.getLast? = some ')' ∨ [')', ':', ' '] <:+: text := by
  have hstart : ¬ [':', ' '] <+: author ++ ':' :: ' ' :: text := by
    obtain ⟨c, name, rfl⟩ := List.exists_cons_of_ne_nil hne
    have hc : ':' ≠ c := by
      rintro rfl
      simp at hcolon
    simp [hc]
  rw [hasSpace_eq_true_iff, or_iff_right hstart, infix_append_cons_iff (by decide) hcolon]
  simp [List.infix_cons_iff]

theorem hasColon_of_hasSpace (h : hasSpace cs = true) : hasColon cs = true := by
  rw [hasColon_eq_true_iff]
  rcases hasSpace_eq_true_iff.mp h with hstart | hinner
  · left
    exact (List.prefix_append [':'] [' ']).trans hstart
  · right
    exact (List.prefix_append [')', ':'] [' ']).isInfix.trans hinner

theorem mem_of_hasSpace (h : hasSpace cs = true) : ' ' ∈ cs := by
  rcases hasSpace_eq_true_iff.mp h with hstart | hinner
  · exact hstart.subset (by simp)
  · exact hinner.subset (by simp)

theorem mem_of_hasColon (h : hasColon cs = true) : ':' ∈ cs := by
  rcases hasColon_eq_true_iff.mp h with hstart | hinner
  · exact hstart.subset (by simp)
  · exact hinner.subset (by simp)

/-- Where no colon is seen, any text at all is one. -/
theorem hasText_of_hasColon_eq_false (hne : cs ≠ []) (h : hasColon cs = false) :
    hasText cs = true := by
  rw [hasColon, Bool.or_eq_false_iff, occurs, Option.isSome_eq_false_iff,
    Option.isNone_iff_eq_none] at h
  unfold hasText
  split
  · exact absurd rfl hne
  · simp at h
  · rw [h.2]

/-- What follows the colon begins with a space, and trimmed text does not end with one. -/
theorem hasText_of_hasSpace (h : hasSpace (trim cs) = true) : hasText (trim cs) = true := by
  have htext : ∀ rest, rest <:+ trim cs → rest ≠ [] → (!allBlank rest) = true := by
    intro rest hsuffix hne
    rw [allBlank_of_suffix_trim hsuffix hne]
    rfl
  rw [hasSpace_eq_true_iff] at h
  unfold hasText
  split
  · rename_i hnil
    simp [hnil] at h
  · rename_i rest hhead
    rw [hhead] at h htext
    refine htext rest (List.suffix_cons ':' rest) ?_
    rintro rfl
    simp [List.infix_cons_iff] at h
  · rename_i hstart
    rcases h with ⟨rest, hrest⟩ | ⟨front, rest, hinner⟩
    · exact absurd hrest.symm (hstart _)
    · obtain ⟨after, hafter, hsuffix⟩ := exists_afterFirst? [')', ':'] front (' ' :: rest)
      have hsplit : front ++ ([')', ':'] ++ ' ' :: rest) = trim cs := by simpa using hinner
      rw [hsplit] at hafter
      rw [hafter]
      obtain ⟨before, hbefore⟩ := append_of_afterFirst? hafter
      have hne : after ≠ [] := by
        rintro rfl
        simp at hsuffix
      refine htext after ⟨before ++ [')', ':'], ?_⟩ hne
      rw [List.append_assoc, hbefore]

end Shape

theorem mem_of_mem_head {v : Vocabulary} {text : String} {found : TagMatch} {c : Char}
    (h : v.find? text = some found) (hc : c ∈ found.head) : c ∈ text.toList := by
  rw [← (findTag_marked h).text_eq]
  have hafter : c ∈ found.after := (trim_isInfix found.after).subset hc
  exact List.mem_append_right _ (List.mem_append_right _ hafter)

namespace Rule

variable {v : Vocabulary} {t : Token} {found : TagMatch}

theorem evaluate_demanding_eq_nil_iff {code : Nat} {name text : String}
    {holds : String → List Char → Bool} (hkind : t.kind = .comment)
    (hfound : v.find? t.text = some found) :
    (demanding code name text holds).evaluate v [t] = [] ↔ holds t.text found.head = true := by
  simp [evaluate, demanding, Token.isComment, hkind, hfound]

theorem evaluate_demanding_of_untagged {code : Nat} {name text : String}
    {holds : String → List Char → Bool} (hnone : v.find? t.text = none) :
    (demanding code name text holds).evaluate v [t] = [] := by
  cases hcomment : t.isComment with
  | true => simp [evaluate, demanding, hcomment, hnone]
  | false => simp [evaluate, hcomment, demanding]

/-- That the comment has to contain a colon decides nothing: what follows the tag has one. -/
theorem evaluate_missedColon_eq_nil_iff (hkind : t.kind = .comment)
    (hfound : v.find? t.text = some found) :
    missedColon.evaluate v [t] = [] ↔ Shape.hasColon found.head = true := by
  rw [missedColon, evaluate_demanding_eq_nil_iff hkind hfound, Bool.and_eq_true,
    List.contains_iff_mem, and_iff_right_iff_imp]
  intro hcolon
  exact mem_of_mem_head hfound (Shape.mem_of_hasColon hcolon)

theorem evaluate_missedText_eq_nil_iff (hkind : t.kind = .comment)
    (hfound : v.find? t.text = some found) :
    missedText.evaluate v [t] = [] ↔ Shape.hasText found.head = true :=
  evaluate_demanding_eq_nil_iff hkind hfound

theorem evaluate_missedSpace_eq_nil_iff (hkind : t.kind = .comment)
    (hfound : v.find? t.text = some found) :
    missedSpace.evaluate v [t] = [] ↔ Shape.hasSpace found.head = true := by
  rw [missedSpace, evaluate_demanding_eq_nil_iff hkind hfound, Bool.and_eq_true,
    List.contains_iff_mem, and_iff_right_iff_imp]
  intro hspace
  exact mem_of_mem_head hfound (Shape.mem_of_hasSpace hspace)

/-- A comment that passes for one with a space behind its colon passes for one with a colon and for
one with a text. A tagged comment passes for neither of the last two if and only if there is nothing
but white space behind its tag. -/
theorem shape_verdicts (v : Vocabulary) {t : Token} (hkind : t.kind = .comment) :
    (missedSpace.evaluate v [t] = [] →
      missedColon.evaluate v [t] = [] ∧ missedText.evaluate v [t] = []) ∧
    ∀ found, v.find? t.text = some found →
      (missedColon.evaluate v [t] ≠ [] ∧ missedText.evaluate v [t] ≠ [] ↔ found.head = []) := by
  constructor
  · intro hspace
    cases hfound : v.find? t.text with
    | none =>
        exact ⟨evaluate_demanding_of_untagged hfound, evaluate_demanding_of_untagged hfound⟩
    | some found =>
        rw [evaluate_missedSpace_eq_nil_iff hkind hfound] at hspace
        rw [evaluate_missedColon_eq_nil_iff hkind hfound,
          evaluate_missedText_eq_nil_iff hkind hfound]
        exact ⟨Shape.hasColon_of_hasSpace hspace, Shape.hasText_of_hasSpace hspace⟩
  · intro found hfound
    rw [ne_eq, ne_eq, evaluate_missedColon_eq_nil_iff hkind hfound,
      evaluate_missedText_eq_nil_iff hkind hfound, Bool.not_eq_true, Bool.not_eq_true]
    constructor
    · rintro ⟨hcolon, htext⟩
      by_contra hne
      rw [Shape.hasText_of_hasColon_eq_false hne hcolon] at htext
      cases htext
    · intro hnil
      rw [hnil]
      exact ⟨rfl, rfl⟩

/-- A comment with a colon, a space and a text, and one with white space behind its tag. -/
theorem shape_verdicts_bare :
    (missedSpace.evaluate {} [.comment 1 1 "# todo(me): x"] = [] ∧
      missedColon.evaluate {} [.comment 1 1 "# todo(me): x"] = [] ∧
      missedText.evaluate {} [.comment 1 1 "# todo(me): x"] = []) ∧
    missedColon.evaluate {} [.comment 1 1 "# fix: #TODO\u2003"] ≠ [] ∧
      missedText.evaluate {} [.comment 1 1 "# fix: #TODO\u2003"] ≠ [] := by
  constructor
  · have hspace : missedSpace.evaluate {} [.comment 1 1 "# todo(me): x"] = [] := by
      decide +kernel
    exact ⟨hspace, (shape_verdicts {} rfl).1 hspace⟩
  · have hfound : ({} : Vocabulary).find? "# fix: #TODO\u2003" =
        some ⟨"# fix: #".toList, ['T', 'O', 'D', 'O'], ['\u2003']⟩ := by
      decide +kernel
    have hhead : TagMatch.head ⟨"# fix: #".toList, ['T', 'O', 'D', 'O'], ['\u2003']⟩ = [] := by
      decide +kernel
    exact ((shape_verdicts {} (t := .comment 1 1 "# fix: #TODO\u2003") rfl).2 _ hfound).mpr hhead

/-- The rules on what follows the tag of a comment. -/
def shapeRules : List Rule :=
  [missedAuthor, missedColon, missedText, missedSpace]

/-- With a space after a colon there are a colon and a text as well. -/
theorem evaluate_shapeRules_eq_nil_iff (hkind : t.kind = .comment)
    (hfound : v.find? t.text = some found) :
    (∀ rule ∈ shapeRules, rule.evaluate v [t] = []) ↔
      Shape.hasAuthor found.head = true ∧ Shape.hasSpace found.head = true := by
  simp only [shapeRules, List.forall_mem_cons, List.not_mem_nil, false_imp_iff, implies_true,
    and_true, evaluate_missedColon_eq_nil_iff hkind hfound,
    evaluate_missedText_eq_nil_iff hkind hfound, evaluate_missedSpace_eq_nil_iff hkind hfound]
  rw [missedAuthor, evaluate_demanding_eq_nil_iff hkind hfound]
  constructor
  · rintro ⟨hauthor, -, -, hspace⟩
    exact ⟨hauthor, hspace⟩
  · rintro ⟨hauthor, hspace⟩
    exact ⟨hauthor, Shape.hasColon_of_hasSpace hspace, Shape.hasText_of_hasSpace hspace, hspace⟩

/-- A comment with an author, a colon, a space and a text always passes for one with an author. It
passes for one with a colon, a text and a space as well if and only if the author ends with a
parenthesis, which one that begins with a parenthesis does, or else a parenthesis with a colon and
a space stands in the text. -/
theorem shape_accepted_iff {author text : List Char} (hkind : t.kind = .comment)
    (hfound : v.find? t.text = some found) (hhead : found.head = author ++ ':' :: ' ' :: text)
    (hne : author ≠ []) (hcolon : ':' ∉ author) (hauthor : Shape.hasAuthor author = true) :
    missedAuthor.evaluate v [t] = [] ∧
      ((∀ rule ∈ shapeRules, rule.evaluate v [t] = []) ↔
        author.getLast? = some ')' ∨ [')', ':', ' '] <:+: text) ∧
      (author.head? = some '(' → ∀ rule ∈ shapeRules, rule.evaluate v [t] = []) := by
  have hhas : Shape.hasAuthor found.head = true := by
    rw [hhead, Shape.hasAuthor_append hcolon, hauthor]
  have hshape : (∀ rule ∈ shapeRules, rule.evaluate v [t] = []) ↔
      author.getLast? = some ')' ∨ [')', ':', ' '] <:+: text := by
    rw [evaluate_shapeRules_eq_nil_iff hkind hfound, and_iff_right hhas, hhead,
      Shape.hasSpace_append_iff hne hcolon]
  refine ⟨(evaluate_demanding_eq_nil_iff hkind hfound).mpr hhas, hshape, ?_⟩
  intro hopen
  exact hshape.mpr (.inl (Shape.getLast?_of_hasAuthor hcolon hauthor hopen))

/-- An author in parentheses, and one after an at sign with a call in the text. -/
theorem shape_accepted_me :
    (∀ rule ∈ shapeRules, rule.evaluate {} [.comment 1 1 "# TODO(me): fix ABC-1"] = []) ∧
      ∀ rule ∈ shapeRules, rule.evaluate {} [.comment 1 1 "# TODO @me: fix f(): slow"] = [] := by
  constructor
  · have hfound : ({} : Vocabulary).find? "# TODO(me): fix ABC-1" =
        some ⟨['#', ' '], ['T', 'O', 'D', 'O'], "(me): fix ABC-1".toList⟩ := by
      decide +kernel
    have hhead : TagMatch.head ⟨['#', ' '], ['T', 'O', 'D', 'O'], "(me): fix ABC-1".toList⟩ =
        ['(', 'm', 'e', ')'] ++ ':' :: ' ' :: "fix ABC-1".toList := by
      decide +kernel
    have haccepted := shape_accepted_iff (t := .comment 1 1 "# TODO(me): fix ABC-1") rfl hfound
      hhead (by simp) (by decide) (by decide +kernel)
    exact haccepted.2.2 rfl
  · have hfound : ({} : Vocabulary).find? "# TODO @me: fix f(): slow" =
        some ⟨['#', ' '], ['T', 'O', 'D', 'O'], " @me: fix f(): slow".toList⟩ := by
      decide +kernel
    have hhead : TagMatch.head ⟨['#', ' '], ['T', 'O', 'D', 'O'], " @me: fix f(): slow".toList⟩ =
        ['@', 'm', 'e'] ++ ':' :: ' ' :: "fix f(): slow".toList := by
      decide +kernel
    have haccepted := shape_accepted_iff (t := .comment 1 1 "# TODO @me: fix f(): slow") rfl hfound
      hhead (by simp) (by decide) (by decide +kernel)
    exact haccepted.2.1.mpr (.inr ⟨['f', 'i', 'x', ' ', 'f', '('], ['s', 'l', 'o', 'w'], rfl⟩)

/-- The colon after `@me` is not seen. -/
theorem at_author_reported :
    Vocabulary.ofTags ["TODO", "FIXME", "BUG", "XXX"] ["FIXME", "BUG", "XXX"] = .ok {} ∧
      ({} : Vocabulary).find? "# TODO @me: fix ABC-1" =
        some ⟨['#', ' '], ['T', 'O', 'D', 'O'], " @me: fix ABC-1".toList⟩ ∧
      TagMatch.head ⟨['#', ' '], ['T', 'O', 'D', 'O'], " @me: fix ABC-1".toList⟩ =
        ['@', 'm', 'e'] ++ ':' :: ' ' :: "fix ABC-1".toList ∧
      Shape.hasAuthor ['@', 'm', 'e'] = true ∧
      missedColon.evaluate {} [.comment 1 1 "# TODO @me: fix ABC-1"] =
        [⟨1, 1, 4, "missed colon in TODO"⟩] ∧
      missedSpace.evaluate {} [.comment 1 1 "# TODO @me: fix ABC-1"] =
        [⟨1, 1, 7, "missed space after colon in TODO"⟩] := by
  refine ⟨rfl, ?_⟩
  decide +kernel

end Rule

end TodoLint
