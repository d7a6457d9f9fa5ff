import TodoLint.Proofs.CanonicalTag
import TodoLint.Proofs.Group
import TodoLint.Proofs.Shape
import TodoLint.Proofs.TagPlace
import TodoLint.Proofs.Token.LineEnding

/-!
Annotations as all rules ask for them, on a line of their own. The tokens of the line, the tag, the
shape and the groups fit together, so that a check has nothing to say about one with a link
(`report_of_annotation`).
-/

namespace TodoLint

open Text

section CommentLine

variable {indent cs : List Char}

theorem scanBody_commentLine (hindent : ∀ c ∈ indent, isBlank c = true) :
    scanBody 1 ⟨indent ++ '#' :: cs, []⟩ {} =
      ⟨[.comment 1 (indent.length + 1) (String.ofList ('#' :: cs))], {}, false⟩ := by
  have hhash : Lexeme.read '#' cs = .comment := by
    have hblank : isBlank '#' = false := by decide
    simp [Lexeme.read, hblank]
  rw [scanBody_of_none rfl, scanCode_of_blanks hindent, scanCode_of_comment hhash, Nat.add_comm]

theorem exists_tokenize_commentLine (hindent : ∀ c ∈ indent, isBlank c = true)
    (hfeed : '\n' ∉ indent ++ '#' :: cs) (hreturn : '\r' ∉ indent ++ '#' :: cs) :
    ∃ lineBreak : Token, lineBreak.IsBreak ∧
      tokenize (String.ofList (indent ++ '#' :: cs)) =
        .ok [.comment 1 (indent.length + 1) (String.ofList ('#' :: cs)), lineBreak, endMark 1] := by
  have hbody := @scanBody_commentLine indent cs hindent
  have hlines : Line.split (indent ++ '#' :: cs) = [⟨indent ++ '#' :: cs, []⟩] :=
    Line.split_of_notMem (by simp) hfeed hreturn
  have hline := @scanLine_of_not_joined 1 ⟨indent ++ '#' :: cs, []⟩ {} (by rw [hbody])
  rw [hbody] at hline
  refine ⟨_, kind_breakAfter 1 ⟨indent ++ '#' :: cs, []⟩ {}, ?_⟩
  rw [tokenize_eq_ok_iff, String.toList_ofList, hlines, scanLines_cons, hline]
  exact ⟨rfl, rfl⟩

theorem Registry.check_commentLine {r : Registry} (hr : r.IsTextual) (comment : Token)
    {lineBreak : Token} (hbreak : lineBreak.IsBreak) :
    r.check [comment, lineBreak, endMark 1] = r.check [comment] := by
  have hkind : lineBreak.kind ≠ .comment := by
    rcases hbreak with hbreak | hbreak <;> simp [hbreak]
  have hend : (endMark 1).kind ≠ .comment := by decide
  calc
    _ = r.check ([comment, lineBreak] ++ [endMark 1]) := rfl
    _ = r.check ([comment] ++ [lineBreak]) := check_append_of_not_comment hr hend
    _ = r.check [comment] := check_append_of_not_comment hr hkind

end CommentLine

/-- A line that reads `# TODO: text` or `# TODO(author): text`. -/
structure Annotation where
  /-- The white space before the `#`. -/
  indent : List Char
  /-- The white space between the `#` and the tag. -/
  gap : List Char
  author : Option (List Char)
  text : List Char
  indent_space : ∀ c ∈ indent, c = ' ' ∨ c = '\t'
  gap_space : ∀ c ∈ gap, c = ' ' ∨ c = '\t'
  author_not_blank : ∀ name ∈ author, allBlank name = false
  author_no_colon : ∀ name ∈ author, ':' ∉ name
  author_one_line : ∀ name ∈ author, '\n' ∉ name ∧ '\r' ∉ name
  text_not_blank : allBlank text = false
  text_one_line : '\n' ∉ text ∧ '\r' ∉ text

namespace Annotation

/-- What stands between the tag and the colon. -/
def byline (a : Annotation) : List Char :=
  match a.author with
  | none => []
  | some name => '(' :: (name ++ [')'])

/-- All that follows the tag. -/
def after (a : Annotation) : List Char :=
  a.byline ++ ':' :: ' ' :: a.text

/-- All that follows the `#`. -/
def marked (a : Annotation) : List Char :=
  a.gap ++ (canonicalTag.toList ++ a.after)

def comment (a : Annotation) : String :=
  String.ofList ('#' :: a.marked)

/-- The line, perhaps with a line feed at its end. -/
def source (a : Annotation) (feed : Bool) : String :=
  String.ofList (a.indent ++ '#' :: a.marked) ++ if feed then "\n" else ""

variable (a : Annotation)

theorem isBlank_of_space {spaces : List Char} (h : ∀ c ∈ spaces, c = ' ' ∨ c = '\t') :
    ∀ c ∈ spaces, isBlank c = true := by
  intro c hc
  rcases h c hc with rfl | rfl
  · decide
  · decide

theorem notMem_of_space {spaces : List Char} (h : ∀ c ∈ spaces, c = ' ' ∨ c = '\t') :
    '\n' ∉ spaces ∧ '\r' ∉ spaces := by
  constructor
  · intro hmem
    simpa using h _ hmem
  · intro hmem
    simpa using h _ hmem

/-! ### Characters -/

theorem notMem_byline {c : Char} (hopen : c ≠ '(') (hclose : c ≠ ')')
    (h : ∀ name ∈ a.author, c ∉ name) : c ∉ a.byline := by
  unfold byline
  cases hauthor : a.author with
  | none => exact List.not_mem_nil
  | some name =>
      have hname := h name hauthor
      simp [hopen, hclose, hname]

theorem colon_notMem_byline : ':' ∉ a.byline :=
  a.notMem_byline (by decide) (by decide) a.author_no_colon

theorem byline_one_line : '\n' ∉ a.byline ∧ '\r' ∉ a.byline := by
  constructor
  · apply a.notMem_byline (by decide) (by decide)
    intro name hname
    exact (a.author_one_line name hname).1
  · apply a.notMem_byline (by decide) (by decide)
    intro name hname
    exact (a.author_one_line name hname).2

theorem line_one_line :
    '\n' ∉ a.indent ++ '#' :: a.marked ∧ '\r' ∉ a.indent ++ '#' :: a.marked := by
  obtain ⟨hfeed, hreturn⟩ := a.byline_one_line
  obtain ⟨htextFeed, htextReturn⟩ := a.text_one_line
  obtain ⟨hindentFeed, hindentReturn⟩ := notMem_of_space a.indent_space
  obtain ⟨hgapFeed, hgapReturn⟩ := notMem_of_space a.gap_space
  simp [marked, after, canonicalTag, *]

/-! ### Tag -/

theorem exists_cons_after : ∃ c cs, a.after = c :: cs ∧ isBlank c = false := by
  unfold after byline
  cases a.author with
  | none => exact ⟨':', _, rfl, by decide⟩
  | some name => exact ⟨'(', _, rfl, by decide⟩

theorem find?_comment : ({} : Vocabulary).find? a.comment =
    some ⟨'#' :: a.gap, canonicalTag.toList, a.after⟩ := by
  have hfind : ({} : Vocabulary).tags.find? (beginsWith (canonicalTag.toList ++ a.after)) =
      some canonicalTag := by
    apply List.find?_cons_of_pos
    exact beginsWith_iff.mpr ⟨canonicalTag.toList, List.prefix_append _ _, by decide⟩
  have hcomment : a.comment.toList = '#' :: a.marked := String.toList_ofList
  rw [Vocabulary.find?, hcomment, marked,
    findTag_of_mark (isBlank_of_space a.gap_space) rfl hfind]
  rfl

theorem trim_after : trim a.after = a.byline ++ ':' :: ' ' :: trimEnd a.text := by
  obtain ⟨c, cs, hcons, hc⟩ := a.exists_cons_after
  have hstart : trimStart a.after = a.after := by
    rw [hcons, trimStart, List.dropWhile_cons_of_neg (by simp [hc])]
  have hsplit : a.after = (a.byline ++ [':', ' ']) ++ a.text := by simp [after]
  rw [trim, hstart, hsplit, trimEnd_append _ a.text_not_blank, List.append_assoc]
  rfl

/-! ### Rules -/

theorem hasAuthor_byline : Shape.hasAuthor a.byline = true := by
  unfold Shape.hasAuthor
  rw [Shape.takeWhile_author a.colon_notMem_byline]
  unfold byline
  cases hauthor : a.author with
  | none => rfl
  | some name =>
      have hname := a.author_not_blank name hauthor
      simp [hname]

theorem hasSpace_head : Shape.hasSpace (a.byline ++ ':' :: ' ' :: trimEnd a.text) = true := by
  unfold byline
  cases a.author with
  | none => rfl
  | some name =>
      rw [Shape.hasSpace_eq_true_iff]
      right
      exact ⟨'(' :: name, trimEnd a.text, by simp⟩

section Check

variable (row col : Nat)

theorem evaluate_shapeRules :
    ∀ rule ∈ Rule.shapeRules, rule.evaluate {} [.comment row col a.comment] = [] := by
  let t := Token.comment row col a.comment
  have hkind : t.kind = .comment := rfl
  have hfound : ({} : Vocabulary).find? t.text = _ := a.find?_comment
  rw [Rule.evaluate_shapeRules_eq_nil_iff hkind hfound, TagMatch.head, a.trim_after,
    Shape.hasAuthor_append a.colon_notMem_byline]
  exact ⟨a.hasAuthor_byline, a.hasSpace_head⟩

theorem evaluate_badTag (hbad : ({} : Vocabulary).findBad? a.comment = none) :
    Rule.badTag.evaluate {} [.comment row col a.comment] = [] :=
  (Rule.evaluate_badTag_eq_nil_iff rfl).mpr hbad

theorem evaluate_invalidCase :
    Rule.invalidCase.evaluate {} [.comment row col a.comment] = [] := by
  have hupper : isUpperText canonicalTag.toList = true := by decide
  have hfound : ({} : Vocabulary).find? (Token.comment row col a.comment).text = _ :=
    a.find?_comment
  rw [Rule.evaluate_comment_eq_nil_iff rfl rfl]
  simp [hfound, hupper]

theorem evaluate_missedLink (hlink : Link.occursIn a.comment = true) :
    Rule.missedLink.evaluate {} [.comment row col a.comment] = [] := by
  have htagged : (({} : Vocabulary).find? a.comment).isSome = true := by rw [a.find?_comment]; rfl
  let t := Token.comment row col a.comment
  have hgroups :
      groups (fun text => (({} : Vocabulary).find? text).isSome) [t] = [⟨t, [t.text]⟩] := by
    simp [groups, groupsFrom, t, Token.comment, htagged, Group.opening]
  rw [Rule.evaluate_missedLink, hgroups]
  simp [Group.text, t, Token.comment, hlink]

theorem check_comment (hbad : ({} : Vocabulary).findBad? a.comment = none)
    (hlink : Link.occursIn a.comment = true) :
    Registry.default.check [.comment row col a.comment] = [] := by
  have hshape := a.evaluate_shapeRules row col
  rw [Registry.check, List.flatMap_eq_nil_iff]
  intro rule hrule
  simp only [Registry.default, Rule.builtin, List.mem_cons, List.not_mem_nil, or_false] at hrule
  -- In the order of their codes; four of the seven are shape rules.
  rcases hrule with rfl | rfl | rfl | rfl | rfl | rfl | rfl
  · exact a.evaluate_badTag row col hbad
  · exact hshape _ (by simp [Rule.shapeRules])
  · exact a.evaluate_missedLink row col hlink
  · exact hshape _ (by simp [Rule.shapeRules])
  · exact hshape _ (by simp [Rule.shapeRules])
  · exact a.evaluate_invalidCase row col
  · exact hshape _ (by simp [Rule.shapeRules])

end Check

end Annotation

/-- An annotation with a link and without a discouraged tag is checked, and nothing is found. -/
theorem report_of_annotation (a : Annotation) (name : String) (feed : Bool)
    (hbad : Registry.default.vocabulary.findBad? a.comment = none)
    (hlink : Link.occursIn a.comment = true) :
    ∃ report, Report.ofSource .default name (a.source feed) = .ok report ∧
      report.filesChecked = 1 ∧ report.passed = true := by
  have hindent := Annotation.isBlank_of_space a.indent_space
  obtain ⟨hfeed, hreturn⟩ := a.line_one_line
  obtain ⟨lineBreak, hbreak, htokens⟩ := exists_tokenize_commentLine hindent hfeed hreturn
  have hline : Registry.default.checkSource (String.ofList (a.indent ++ '#' :: a.marked)) =
      .ok [] := by
    rw [Registry.checkSource_eq_ok htokens,
      Registry.check_commentLine Registry.isTextual_default _ hbreak]
    exact congrArg Except.ok (a.check_comment 1 (a.indent.length + 1) hbad hlink)
  have hsource : Registry.default.checkSource (a.source feed) = .ok [] := by
    unfold Annotation.source
    cases feed with
    | true =>
        exact (checkSource_append_feed Registry.isTextual_default _).trans hline
    | false =>
        rw [← hline]
        congr 1
        exact String.append_empty
  refine ⟨{ filesChecked := 1 }, ?_, rfl, rfl⟩
  rw [Report.ofSource, hsource]
  rfl

/-- Parentheses, quotes and a hash in the author, quotes, a colon and an em space in the text. -/
theorem report_of_annotation_quotes :
    let a : Annotation :=
      { indent := ['\t', ' ']
        gap := ['\t']
        author := some "é) (#\"".toList
        text := "\"\"\"):x #7\u2003".toList
        indent_space := by simp
        gap_space := by simp
        author_not_blank := by decide
        author_no_colon := by decide
        author_one_line := by decide
        text_not_blank := by decide
        text_one_line := by decide }
    Registry.default.vocabulary.findBad? a.comment = none ∧ Link.occursIn a.comment = true ∧
      ∃ report, Report.ofSource .default "-" (a.source true) = .ok report ∧
        report.filesChecked = 1 ∧ report.passed = true := by
  intro a
  have hbad : Registry.default.vocabulary.findBad? a.comment = none := by decide +kernel
  have hlink : Link.occursIn a.comment = true := by decide +kernel
  exact ⟨hbad, hlink, report_of_annotation a "-" true hbad hlink⟩

end TodoLint
