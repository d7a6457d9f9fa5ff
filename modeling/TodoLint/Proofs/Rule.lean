import TodoLint.Proofs.Position
import TodoLint.Rule

/-!
Which comments a rule complains about. The findings of a rule that looks at texts stand at these
comments in the order of the tokens, those of a group at the comment that opens it.
-/

namespace TodoLint

theorem kind_of_mem_comments {t : Token} {ts : List Token} (h : t ∈ ts.filter Token.isComment) :
    t.kind = .comment := by
  simpa [Token.isComment] using (List.mem_filter.mp h).2

theorem start_groupsFrom (tagged : String → Bool) (current : Option Group) (ts : List Token) :
    (groupsFrom tagged current ts).map Group.start =
      current.toList.map Group.start ++
        (ts.filter Token.isComment).filter fun t => tagged t.text := by
  induction ts generalizing current with
  | nil => simp [groupsFrom]
  | cons t ts ih =>
      cases hkind : t.kind with
      | newline | logicalNewline => simp [groupsFrom, hkind, ih, Token.isComment]
      | other => simp [groupsFrom, hkind, ih, Token.isComment]
      | comment =>
          cases htagged : tagged t.text with
          | true => simp [groupsFrom, hkind, htagged, ih, Token.isComment, Group.opening]
          | false =>
              cases current <;> simp [groupsFrom, hkind, htagged, ih, Token.isComment, Group.push]

/-- The groups of a token list start at its tagged comments. -/
theorem start_groups (tagged : String → Bool) (ts : List Token) :
    (groups tagged ts).map Group.start =
      (ts.filter Token.isComment).filter fun t => tagged t.text :=
  start_groupsFrom tagged none ts

theorem groupsFrom_append_of_not_comment (tagged : String → Bool) (current : Option Group)
    (ts : List Token) {t : Token} (h : t.kind ≠ .comment) :
    groupsFrom tagged current (ts ++ [t]) = groupsFrom tagged current ts := by
  induction ts generalizing current with
  | nil => cases hkind : t.kind <;> simp_all [groupsFrom]
  | cons u ts ih => cases hkind : u.kind <;> simp [groupsFrom, hkind, ih]

/-- The place of a finding. -/
def Finding.place (f : Finding) : Position :=
  ⟨f.row, f.col⟩

theorem place_filterMap {α : Type} (token : α → Token) (complaint : α → Option String)
    (code : Nat) (subjects : List α) :
    (subjects.filterMap fun a => (complaint a).map (Finding.ofToken (token a) code)).map
        Finding.place =
      (subjects.filter fun a => (complaint a).isSome).map fun a => (token a).start := by
  induction subjects with
  | nil => rfl
  | cons a subjects ih =>
      cases hcomplaint : complaint a with
      | none => simp [hcomplaint, ih]
      | some text => simp [hcomplaint, ih, Finding.ofToken, Finding.place]

namespace Rule

/-- The rule looks at the texts of comments alone, and at where code separates them. -/
def IsTextual (rule : Rule) : Prop :=
  match rule.inspection with
  | .ofComment complaint => ∀ v t u, t.text = u.text → complaint v t = complaint v u
  | .ofGroup _ => True
  | .ofTokens _ => False

variable (rule : Rule) (v : Vocabulary) (tokens : List Token)

/-- The comments that a rule complains about, for a group the one that opens it. -/
def subjects : List Token :=
  match rule.inspection with
  | .ofComment complaint =>
      (tokens.filter Token.isComment).filter fun t => (complaint v t).isSome
  | .ofGroup complaint =>
      ((groups (fun text => (v.find? text).isSome) tokens).filter fun g =>
        (complaint g.text).isSome).map Group.start
  | .ofTokens _ => []

theorem subjects_sublist : (rule.subjects v tokens).Sublist (tokens.filter Token.isComment) := by
  unfold subjects
  cases rule.inspection with
  | ofComment complaint => exact List.filter_sublist
  | ofGroup complaint =>
      apply (List.filter_sublist.map Group.start).trans
      rw [start_groups]
      exact List.filter_sublist
  | ofTokens findings => exact List.nil_sublist _

variable {rule v tokens}

theorem place_evaluate (hrule : rule.IsTextual) :
    (rule.evaluate v tokens).map Finding.place = (rule.subjects v tokens).map Token.start := by
  unfold IsTextual at hrule
  unfold evaluate subjects
  cases hinspection : rule.inspection with
  | ofComment complaint => exact place_filterMap id (complaint v) rule.code _
  | ofGroup complaint =>
      rw [List.map_map]
      exact place_filterMap Group.start (fun g => complaint g.text) rule.code _
  | ofTokens findings => simp [hinspection] at hrule

/-- Code and line breaks after the last comment do not matter. -/
theorem evaluate_append_of_not_comment (hrule : rule.IsTextual) {t : Token}
    (h : t.kind ≠ .comment) : rule.evaluate v (tokens ++ [t]) = rule.evaluate v tokens := by
  have hcomments : (tokens ++ [t]).filter Token.isComment = tokens.filter Token.isComment := by
    simp [Token.isComment, h]
  unfold IsTextual at hrule
  unfold evaluate
  cases hinspection : rule.inspection with
  | ofComment complaint => rw [hcomments]
  | ofGroup complaint => rw [groups, groupsFrom_append_of_not_comment _ none tokens h, groups]
  | ofTokens findings => simp [hinspection] at hrule

theorem comment_of_mem_subjects {t : Token} (ht : t ∈ rule.subjects v tokens) :
    t ∈ tokens ∧ t.kind = .comment := by
  have hcomment := (rule.subjects_sublist v tokens).mem ht
  exact ⟨List.mem_of_mem_filter hcomment, kind_of_mem_comments hcomment⟩

theorem code_of_mem_evaluate (hrule : rule.IsTextual) {f : Finding}
    (hf : f ∈ rule.evaluate v tokens) : f.code = rule.code := by
  unfold IsTextual at hrule
  unfold evaluate at hf
  cases hinspection : rule.inspection with
  | ofComment complaint =>
      rw [hinspection] at hf
      obtain ⟨t, -, hcomplaint⟩ := List.mem_filterMap.mp hf
      obtain ⟨text, -, rfl⟩ := Option.map_eq_some_iff.mp hcomplaint
      rfl
  | ofGroup complaint =>
      rw [hinspection] at hf
      obtain ⟨g, -, hcomplaint⟩ := List.mem_filterMap.mp hf
      obtain ⟨text, -, rfl⟩ := Option.map_eq_some_iff.mp hcomplaint
      rfl
  | ofTokens findings => simp [hinspection] at hrule

/-- A finding stands at a comment that the rule complains about. -/
theorem exists_subject (hrule : rule.IsTextual) {f : Finding}
    (hf : f ∈ rule.evaluate v tokens) : ∃ t ∈ rule.subjects v tokens, t.start = f.place := by
  have hplace : f.place ∈ (rule.evaluate v tokens).map Finding.place :=
    List.mem_map_of_mem hf
  rw [place_evaluate hrule] at hplace
  exact List.mem_map.mp hplace

theorem pairwise_evaluate (hrule : rule.IsTextual)
    (h : (tokens.filter Token.isComment).Pairwise fun a b => a.start.Before b.start) :
    (rule.evaluate v tokens).Pairwise fun f g => f.place.Before g.place := by
  have hsubjects := h.sublist (rule.subjects_sublist v tokens)
  rw [← List.pairwise_map, ← place_evaluate hrule, List.pairwise_map] at hsubjects
  exact hsubjects

section OfComment

variable {complaint : Vocabulary → Token → Option String}
  (hrule : rule.inspection = .ofComment complaint)
include hrule

theorem mem_evaluate_of_comment {f : Finding} :
    f ∈ rule.evaluate v tokens ↔ ∃ t ∈ tokens, t.kind = .comment ∧
      ∃ text, complaint v t = some text ∧ Finding.ofToken t rule.code text = f := by
  simp only [evaluate, hrule, List.mem_filterMap, List.mem_filter, Option.map_eq_some_iff,
    Token.isComment, beq_iff_eq, and_assoc]

theorem evaluate_comment_eq_nil_iff {t : Token} (hkind : t.kind = .comment) :
    rule.evaluate v [t] = [] ↔ complaint v t = none := by
  simp [evaluate, hrule, Token.isComment, hkind]

end OfComment

end Rule

end TodoLint
